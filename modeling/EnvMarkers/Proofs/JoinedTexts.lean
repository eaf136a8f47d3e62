import EnvMarkers.Proofs.DerivedItems
import EnvMarkers.Proofs.ParsePrint
import EnvMarkers.Proofs.PartialEvaluation

/-!
# Texts with a connective between them

Two marker texts with a bare `or` between them are read as a marker that has the text of the join of
theirs and is decided by the same environments in the same way, although the conjunctions on the
right are joined to what stands on the left one by one.  If there is only one of them, the marker is
the join itself.  The same holds of `and` between two texts neither of which has an `or` outside of
parentheses (`Marker.parse_joined`).

What does not depend on how joins under one connective are grouped (`Marker.Regroups`) can be read
off the two sides: a disjunction or conjunction to which a chain is added may be set apart from it
(`Assembly.operandChain_some_sum`, `Assembly.operandChain_some_run`).
-/

namespace EnvMarkers

/-! ### Values that do not depend on grouping -/

namespace Marker

/-- Whether a value of markers is put together, by `f`, from those of the two sides of a join, and
does not depend on how joins under one connective are grouped. -/
structure Regroups {β : Type} (value : Marker → β) (f : Connective → β → β → β) : Prop where
  /-- The value of a join is that of its sides. -/
  join (op : Connective) (l r : Marker) : value (.join op l r) = f op (value l) (value r)
  /-- Under one connective, grouping makes no difference. -/
  assoc (op : Connective) (x y z : β) : f op (f op x y) z = f op x (f op y z)

theorem regroups_text : Regroups text fun op x y => x ++ " " ++ op.text ++ " " ++ y where
  join := text_join
  assoc op x y z := by simp only [String.append_assoc]

theorem regroups_kleene (v : Comparison → Option Bool) : Regroups (kleene v) Connective.kleene where
  join _ _ _ := rfl
  assoc op x y z := by
    cases op <;> rcases x with _ | _ | _ <;> rcases y with _ | _ | _ <;> rcases z with _ | _ | _ <;>
      rfl

end Marker

namespace Assembly

variable {v : Item → Option Marker} {β : Type} {value : Marker → β}
  {f : Connective → β → β → β}

/-! ### What stands in front of a chain -/

/-- A disjunction to which a chain is added may be set apart from it. -/
theorem operandChain_some_sum (h : Marker.Regroups value f) (sum : Marker) (items : List Item) :
    (∀ run, (operandChain v (some sum) run items).map value =
        ((operandChain v none run items).map value).map (f .disj (value sum))) ∧
      ∀ run, (connectiveChain v (some sum) run items).map value =
        ((connectiveChain v none run items).map value).map (f .disj (value sum)) := by
  induction items generalizing sum with
  | nil =>
    refine ⟨fun _ => rfl, fun run => ?_⟩
    rw [connectiveChain, connectiveChain]
    exact congrArg some (h.join .disj sum run)
  | cons item rest ih =>
    constructor
    · intro run
      rw [operandChain, operandChain]
      cases v item with
      | none => rfl
      | some x => exact (ih sum).2 (joinRun run x)
    · intro run
      cases item with
      | keyword op =>
        cases op with
        | conj =>
          rw [connectiveChain, connectiveChain]
          exact (ih sum).1 (some run)
        | disj =>
          -- The conjunction that ends here is joined to `sum` on one side, and is a disjunction of
          -- its own on the other.
          rw [connectiveChain, connectiveChain, joinSum, joinSum, (ih _).1, (ih run).1, h.join,
            Option.map_map _ (f .disj (value run))]
          congr 1
          funext x
          exact h.assoc .disj (value sum) (value run) x
      | _ => simp only [connectiveChain, Option.map_none]

/-- Without an `or` in it, a chain may be set apart from a conjunction that it goes on with. -/
theorem operandChain_some_run (h : Marker.Regroups value f) {items : List Item}
    (hdisj : .keyword .disj ∉ items) :
    (∀ run, (operandChain v none (some run) items).map value =
        ((operandChain v none none items).map value).map (f .conj (value run))) ∧
      ∀ left run, (connectiveChain v none (.join .conj left run) items).map value =
        ((connectiveChain v none run items).map value).map (f .conj (value left)) := by
  induction items with
  | nil =>
    refine ⟨fun _ => rfl, fun left run => ?_⟩
    rw [connectiveChain, connectiveChain]
    exact congrArg some (h.join .conj left run)
  | cons item rest ih =>
    rw [List.mem_cons, not_or] at hdisj
    obtain ⟨ihOperand, ihConnective⟩ := ih hdisj.2
    constructor
    · intro run
      rw [operandChain, operandChain]
      cases v item with
      | none => rfl
      | some x => exact ihConnective run x
    · intro left run
      cases item with
      | keyword op =>
        cases op with
        | conj =>
          rw [connectiveChain, connectiveChain, ihOperand, ihOperand run, h.join,
            Option.map_map _ (f .conj (value run))]
          congr 1
          funext x
          exact h.assoc .conj (value left) (value run) x
        | disj => exact absurd rfl hdisj.1
      | _ => simp only [connectiveChain, Option.map_none]

/-! ### What stands behind a chain -/

/-- A chain is read as a disjunction to which more can be added. -/
theorem operandChain_append_disj (hv : ∀ op, v (.keyword op) = none) (items rest : List Item) :
    (∀ sum run, operandChain v sum run (items ++ .keyword .disj :: rest) =
        (operandChain v sum run items).bind fun m => operandChain v (some m) none rest) ∧
      ∀ sum run, connectiveChain v sum run (items ++ .keyword .disj :: rest) =
        (connectiveChain v sum run items).bind fun m => operandChain v (some m) none rest := by
  induction items with
  | nil =>
    refine ⟨fun sum run => ?_, fun _ _ => rfl⟩
    show (v (.keyword .disj)).bind _ = none
    rw [hv]
    rfl
  | cons item items ih =>
    constructor
    · intro sum run
      rw [List.cons_append, operandChain, operandChain, Option.bind_assoc]
      congr 1
      funext x
      exact ih.2 sum (joinRun run x)
    · intro sum run
      rw [List.cons_append]
      cases item with
      | keyword op =>
        cases op with
        | conj =>
          rw [connectiveChain, connectiveChain]
          exact ih.1 sum (some run)
        | disj =>
          rw [connectiveChain, connectiveChain]
          exact ih.1 (some (joinSum sum run)) none
      | _ => simp only [connectiveChain, Option.bind_none]

theorem readsAsSum_of_chain (hv : ∀ op, v (.keyword op) = none) {items : List Item} {m : Marker}
    (h : operandChain v none none items = some m) : ReadsAsSum v items m := by
  refine ⟨h, fun rest => ?_⟩
  rw [(operandChain_append_disj hv items rest).1, h]
  rfl

/-- Without an `or` in it, a chain is read as a conjunction that can go on. -/
theorem operandChain_append_of_not_mem {items : List Item} (hdisj : .keyword .disj ∉ items)
    (rest : List Item) (m : Marker) :
    (∀ sum run, operandChain v none run items = some m →
        operandChain v sum run (items ++ rest) = connectiveChain v sum m rest) ∧
      ∀ sum run, connectiveChain v none run items = some m →
        connectiveChain v sum run (items ++ rest) = connectiveChain v sum m rest := by
  induction items with
  | nil =>
    refine ⟨nofun, fun sum run h => ?_⟩
    obtain rfl := Option.some.inj h
    rfl
  | cons item items ih =>
    rw [List.mem_cons, not_or] at hdisj
    obtain ⟨ihOperand, ihConnective⟩ := ih hdisj.2
    constructor
    · intro sum run h
      obtain ⟨x, hx, hrest⟩ := Option.bind_eq_some_iff.mp h
      rw [List.cons_append, operandChain, hx]
      exact ihConnective sum (joinRun run x) hrest
    · intro sum run h
      cases item with
      | keyword op =>
        cases op with
        | conj =>
          rw [List.cons_append, connectiveChain]
          exact ihOperand sum (some run) h
        | disj => exact absurd rfl hdisj.1
      | _ =>
        simp only [connectiveChain] at h
        cases h

theorem readsAsRun_of_chain {items : List Item} (hdisj : .keyword .disj ∉ items) {m : Marker}
    (h : operandChain v none none items = some m) : ReadsAsRun v items m :=
  fun sum rest => (operandChain_append_of_not_mem hdisj rest m).1 sum none h

end Assembly

/-! ### Two texts -/

namespace Marker

open Assembly

/-- Whether there is an `or` in a text outside of parentheses. -/
def HasDisj (s : String) : Prop :=
  ∃ items, Item.ofText s = .ok items ∧ .keyword .disj ∈ items

/-- A chain that has the value of a join, for all values that do not depend on grouping, makes up a
marker with the text of the join and its literals. -/
theorem exists_like_join (chain : Option Marker) (op : Connective) (l r : Marker)
    (h : ∀ {β : Type} (value : Marker → β) (f : Connective → β → β → β), Regroups value f →
      chain.map value = some (value (join op l r))) :
    ∃ m, chain = some m ∧ m.text = (join op l r).text ∧
      ∀ env, (m.evaluate env).value.literal? = ((join op l r).evaluate env).value.literal? := by
  obtain ⟨m, hm, htext⟩ := Option.map_eq_some_iff.mp (h _ _ regroups_text)
  refine ⟨m, hm, htext, fun env => ?_⟩
  have hkleene := h _ _ (regroups_kleene env.answer)
  rw [hm] at hkleene
  rw [literal?_evaluate, literal?_evaluate]
  exact Option.some.inj hkleene

/-- Two marker texts with `or` between them are read as a marker with the text of the join of
theirs and its literals in every environment, and as the join itself if there is no `or` outside of
parentheses in the second one.  With `and` between them, they are read as such a marker if that is
so of both. -/
theorem parse_joined {s₁ s₂ : String} {m₁ m₂ : Marker} (h₁ : (Marker.parse s₁).value = .ok m₁)
    (h₂ : (Marker.parse s₂).value = .ok m₂) :
    (∃ m, (Marker.parse (s₁ ++ " or " ++ s₂)).value = .ok m ∧
        m.text = m₁.text ++ " or " ++ m₂.text ∧
        (∀ env, (m.evaluate env).value.literal? =
          ((join .disj m₁ m₂).evaluate env).value.literal?) ∧
        (¬ HasDisj s₂ → m = join .disj m₁ m₂)) ∧
      (¬ HasDisj s₁ → ¬ HasDisj s₂ → ∃ m, (Marker.parse (s₁ ++ " and " ++ s₂)).value = .ok m ∧
        m.text = m₁.text ++ " and " ++ m₂.text ∧
        ∀ env, (m.evaluate env).value.literal? =
          ((join .conj m₁ m₂).evaluate env).value.literal?) := by
  obtain ⟨items₁, hitems₁, hchain₁⟩ := parse_eq_ok_iff_chain.mp h₁
  obtain ⟨items₂, hitems₂, hchain₂⟩ := parse_eq_ok_iff_chain.mp h₂
  have hor : ∀ x y : String, x ++ " or " ++ y = x ++ " " ++ Connective.disj.text ++ " " ++ y := by
    intro x y
    rw [← String.toList_inj]
    simp [Connective.text]
  have hand : ∀ x y : String, x ++ " and " ++ y = x ++ " " ++ Connective.conj.text ++ " " ++ y := by
    intro x y
    rw [← String.toList_inj]
    simp [Connective.text]
  have hparse : ∀ op m, operandChain (operand 0) none none (items₁ ++ .keyword op :: items₂) =
      some m → (Marker.parse (s₁ ++ " " ++ op.text ++ " " ++ s₂)).value = .ok m :=
    fun op m hchain => parse_eq_ok_iff_chain.mpr ⟨_, Item.ofText_join hitems₁ op hitems₂, hchain⟩
  rw [hor, hor, hand, hand, ← text_join, ← text_join]
  constructor
  · have hsum := readsAsSum_of_chain (operand_keyword 0) hchain₁
    obtain ⟨m, hm, htext, hliteral⟩ := exists_like_join
        (operandChain (operand 0) (some m₁) none items₂) .disj m₁ m₂ fun value f h => by
      rw [(operandChain_some_sum h m₁ items₂).1, hchain₂, h.join]
      rfl
    refine ⟨m, hparse .disj m ((hsum.2 items₂).trans hm), htext, hliteral, fun hdisj => ?_⟩
    -- A single conjunction is joined to what stands on the left as a whole.
    have hnot : .keyword .disj ∉ items₂ := fun hmem => hdisj ⟨items₂, hitems₂, hmem⟩
    have hrun := readsAsRun_of_chain hnot hchain₂ (some m₁) []
    rw [List.append_nil, hm] at hrun
    exact Option.some.inj hrun
  · intro hdisj₁ hdisj₂
    have hnot₁ : .keyword .disj ∉ items₁ := fun hmem => hdisj₁ ⟨items₁, hitems₁, hmem⟩
    have hnot₂ : .keyword .disj ∉ items₂ := fun hmem => hdisj₂ ⟨items₂, hitems₂, hmem⟩
    have hrun := readsAsRun_of_chain hnot₁ hchain₁ none (.keyword .conj :: items₂)
    obtain ⟨m, hm, htext, hliteral⟩ := exists_like_join
        (operandChain (operand 0) none (some m₁) items₂) .conj m₁ m₂ fun value f h => by
      rw [(operandChain_some_run h hnot₂).1, hchain₂, h.join]
      rfl
    exact ⟨m, hparse .conj m (hrun.trans hm), htext, hliteral⟩

/-- An `or` in parentheses, in front of an `or` and behind an `and`. -/
theorem parse_joined_parentheses :
    let s₁ := "extra == 'a'"
    let s₂ := "(extra == 'b' or os_name == 'nt')"
    let m₁ := comparison ⟨"extra", .equal, "a"⟩
    let m₂ := join .disj (comparison ⟨"extra", .equal, "b"⟩) (comparison ⟨"os_name", .equal, "nt"⟩)
    ((Marker.parse s₁).value = .ok m₁ ∧ (Marker.parse s₂).value = .ok m₂) ∧
      (∃ m, (Marker.parse (s₂ ++ " or " ++ s₁)).value = .ok m ∧ m = join .disj m₂ m₁) ∧
      ∃ m, (Marker.parse (s₁ ++ " and " ++ s₂)).value = .ok m ∧
        m.text = "extra == a and extra == b or os_name == nt" ∧
        ∀ env, (m.evaluate env).value.literal? =
          ((join .conj m₁ m₂).evaluate env).value.literal? := by
  intro s₁ s₂ m₁ m₂
  have hitems₁ : Item.ofText "extra == 'a'" =
      .ok [.group [.name "extra", .operator "==", .value "a"]] := by rfl
  have hitems₂ : Item.ofText "(extra == 'b' or os_name == 'nt')" =
      .ok [.group [.group [.name "extra", .operator "==", .value "b"], .keyword .disj,
        .group [.name "os_name", .operator "==", .value "nt"]]] := by rfl
  have h₁ : (Marker.parse s₁).value = .ok m₁ := parse_of_comparison hitems₁ rfl
  have h₂ : (Marker.parse s₂).value = .ok m₂ := by
    refine parse_eq_ok_iff.mpr ⟨_, hitems₂, ?_⟩
    simp (disch := simp) only [accepted_ofSequence, accepted_ofSequence_comparison, operand_group,
      operandChain, connectiveChain, maxGroupDepth]
    rfl
  have hsingle : ∀ {s inner}, Item.ofText s = .ok [.group inner] → ¬ HasDisj s := by
    rintro s inner hitems ⟨items, hitems', hmem⟩
    obtain rfl := Except.ok.inj (hitems.symm.trans hitems')
    cases List.mem_singleton.mp hmem
  obtain ⟨m, hm, -, -, hjoin⟩ := (parse_joined h₂ h₁).1
  obtain ⟨n, hn, htext, hliteral⟩ := (parse_joined h₁ h₂).2 (hsingle hitems₁) (hsingle hitems₂)
  refine ⟨⟨h₁, h₂⟩, ⟨m, hm, hjoin (hsingle hitems₁)⟩, n, hn, ?_, hliteral⟩
  rw [htext, text_join, text_comparison, text_comparison, text_comparison]
  decide

end Marker

end EnvMarkers
