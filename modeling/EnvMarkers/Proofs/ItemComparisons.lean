import EnvMarkers.Marker.Evaluation
import EnvMarkers.Proofs.ParseStages
import EnvMarkers.Proofs.SinglePass

/-!
# The comparisons of a marker and of its items

A marker has the comparisons of the items that it is made of, in the same order
(`Assembly.comparisons_of_accepted`).  So it mentions what stands on the left of one of them, be it
the name of a variable or, in a membership test, a value; a variable on the right of a membership
test is not mentioned (`Marker.mentions_of_parse`).

An accepted sequence is a chain of operands or a bare comparison.  Along a chain everything is kept
in order (`Assembly.operandChain_flatMap`), and there is nothing in it but operands and connectives
(`Assembly.operandChain_mem`).
-/

namespace EnvMarkers

/-! ### Comparisons and names of items -/

namespace Item

/-- Three items that are given as a comparison. -/
structure Triple where
  /-- The item on the left. -/
  lhs : Item
  /-- The text of the operator between them. -/
  operator : String
  /-- The item on the right. -/
  rhs : Item

/-- The comparison that three items make up, if they do. -/
def Triple.comparison? (t : Triple) : Option Comparison :=
  Comparison.ofItems? t.lhs t.operator t.rhs

mutual

/-- The groups in an item that are given as comparisons, from left to right. -/
def triples : Item → List Triple
  | group [lhs, operator text, rhs] => [⟨lhs, text, rhs⟩]
  | group items => chainTriples items
  | _ => []

/-- The groups in a list of items that are given as comparisons, from left to right. -/
def chainTriples : List Item → List Triple
  | [] => []
  | item :: rest => item.triples ++ chainTriples rest

end

/-- What is given as comparisons in a sequence, which may be a bare comparison itself. -/
def sequenceTriples (items : List Item) : List Triple :=
  (group items).triples

mutual

/-- The names anywhere in an item. -/
def names : Item → List String
  | name text => [text]
  | group items => sequenceNames items
  | _ => []

/-- The names anywhere in a list of items. -/
def sequenceNames : List Item → List String
  | [] => []
  | item :: rest => item.names ++ sequenceNames rest

end

theorem chainTriples_eq_flatMap (items : List Item) :
    chainTriples items = items.flatMap triples := by
  induction items with
  | nil => rw [chainTriples, List.flatMap_nil]
  | cons item rest ih => rw [chainTriples, ih, List.flatMap_cons]

theorem sequenceNames_eq_flatMap (items : List Item) :
    sequenceNames items = items.flatMap names := by
  induction items with
  | nil => rw [sequenceNames, List.flatMap_nil]
  | cons item rest ih => rw [sequenceNames, ih, List.flatMap_cons]

theorem sequenceTriples_of_chain {items : List Item}
    (h : ∀ lhs operator rhs, items ≠ [lhs, .operator operator, rhs]) :
    sequenceTriples items = items.flatMap triples := by
  rw [sequenceTriples, triples, chainTriples_eq_flatMap]
  exact h

end Item

/-- A comparison is of a variable with a value, or of a value with a variable under a membership
test. -/
theorem Comparison.ofItems?_sides {lhs rhs : Item} {operator : String} {c : Comparison}
    (h : Comparison.ofItems? lhs operator rhs = some c) :
    (lhs = .name c.lhs ∧ rhs = .value c.rhs) ∨
      (c.comparator.isMembership = true ∧ lhs = .value c.lhs ∧ rhs = .name c.rhs) := by
  unfold Comparison.ofItems? at h
  split at h
  · obtain rfl := Option.some.inj h
    exact .inl ⟨rfl, rfl⟩
  · split_ifs at h with hmembership
    obtain rfl := Option.some.inj h
    exact .inr ⟨hmembership, rfl, rfl⟩
  · cases h

namespace Assembly

/-! ### What a chain keeps -/

variable {v : Item → Option Marker} {α : Type}

/-- A list `g` that is read off markers from left to right, with a list `w` for each connective, is
the one that `f` reads off the items of a chain. -/
theorem operandChain_flatMap {f : Item → List α} {g : Marker → List α} {w : Connective → List α}
    (hjoin : ∀ op l r, g (.join op l r) = g l ++ w op ++ g r)
    (hkeyword : ∀ op, f (.keyword op) = w op) {items : List Item}
    (hv : ∀ item ∈ items, ∀ x, v item = some x → g x = f item) (m : Marker) :
    (∀ sum run, operandChain v sum run items = some m → g m =
        sum.elim [] (g · ++ w .disj) ++ run.elim [] (g · ++ w .conj) ++
          items.flatMap f) ∧
      ∀ sum run, connectiveChain v sum run items = some m → g m =
        sum.elim [] (g · ++ w .disj) ++ g run ++ items.flatMap f := by
  have hsum : ∀ sum run, g (joinSum sum run) =
      sum.elim [] (g · ++ w .disj) ++ g run := by
    intro sum run
    cases sum with
    | none => rfl
    | some left => exact hjoin .disj left run
  have hrun : ∀ run operand, g (joinRun run operand) =
      run.elim [] (g · ++ w .conj) ++ g operand := by
    intro run operand
    cases run with
    | none => rfl
    | some left => exact hjoin .conj left operand
  induction items with
  | nil =>
    refine ⟨nofun, fun sum run h => ?_⟩
    obtain rfl := Option.some.inj h
    rw [hsum, List.flatMap_nil, List.append_nil]
  | cons item rest ih =>
    rw [List.forall_mem_cons] at hv
    obtain ⟨ihOperand, ihConnective⟩ := ih hv.2
    constructor
    · intro sum run h
      obtain ⟨x, hx, hrest⟩ := Option.bind_eq_some_iff.mp h
      rw [ihConnective sum _ hrest, hrun, hv.1 x hx, List.flatMap_cons]
      simp only [List.append_assoc]
    · intro sum run h
      cases item with
      | keyword op =>
        cases op with
        | conj =>
          rw [ihOperand sum (some run) h, List.flatMap_cons, hkeyword]
          simp only [Option.elim_some, List.append_assoc]
        | disj =>
          rw [ihOperand _ none h, List.flatMap_cons, hkeyword]
          simp only [Option.elim_some, Option.elim_none, hsum, List.append_assoc, List.nil_append]
      | _ =>
        simp only [connectiveChain] at h
        cases h

/-- A chain consists of operands and connectives. -/
theorem operandChain_mem {items : List Item} {m : Marker} :
    (∀ sum run, operandChain v sum run items = some m →
        ∀ item ∈ items, (∃ x, v item = some x) ∨ ∃ op, item = .keyword op) ∧
      ∀ sum run, connectiveChain v sum run items = some m →
        ∀ item ∈ items, (∃ x, v item = some x) ∨ ∃ op, item = .keyword op := by
  induction items with
  | nil => exact ⟨nofun, fun _ _ _ _ hitem => nomatch hitem⟩
  | cons item rest ih =>
    obtain ⟨ihOperand, ihConnective⟩ := ih
    constructor
    · intro sum run h
      obtain ⟨x, hx, hrest⟩ := Option.bind_eq_some_iff.mp h
      exact List.forall_mem_cons.mpr ⟨.inl ⟨x, hx⟩, ihConnective sum _ hrest⟩
    · intro sum run h
      cases item with
      | keyword op =>
        refine List.forall_mem_cons.mpr ⟨.inr ⟨op, rfl⟩, ?_⟩
        cases op with
        | conj => exact ihOperand sum (some run) h
        | disj => exact ihOperand _ none h
      | _ =>
        simp only [connectiveChain] at h
        cases h

/-! ### Accepted sequences -/

/-- What is true of bare comparisons, and of chains if it is of the operands in them, is true of
every accepted sequence, taken as the group that it would be. -/
theorem acceptedInduction {P : Item → Marker → Prop}
    (comparison : ∀ lhs operator rhs c, Comparison.ofItems? lhs operator rhs = some c →
      P (.group [lhs, .operator operator, rhs]) (.comparison c))
    (chain : ∀ (v : Item → Option Marker) items m,
      (∀ lhs operator rhs, items ≠ [lhs, .operator operator, rhs]) →
      (∀ item ∈ items, ∀ x, v item = some x → P item x) →
      operandChain v none none items = some m → P (.group items) m)
    {depth : Nat} {items : List Item} {m : Marker}
    (h : accepted (ofSequence depth items) = some m) : P (.group items) m := by
  have hsequence : ∀ {depth items m},
      (∀ item ∈ items, ∀ x, operand depth item = some x → P item x) →
      accepted (ofSequence depth items) = some m → P (.group items) m := by
    intro depth items m hitems h
    rcases Item.bare_or_chain items with ⟨lhs, operator, rhs, rfl⟩ | hchain
    · rw [accepted_ofSequence_comparison] at h
      obtain ⟨c, hc, rfl⟩ := Option.map_eq_some_iff.mp h
      exact comparison lhs operator rhs c hc
    · rw [accepted_ofSequence depth hchain] at h
      exact chain (operand depth) items m hchain hitems h
  have hoperand : ∀ item depth x, operand depth item = some x → P item x := by
    intro item
    induction item using Item.groupInduction with
    | group items ih =>
      intro depth x hx
      rw [operand_group] at hx
      split_ifs at hx
      exact hsequence (fun item hitem => ih item hitem (depth + 1)) hx
    | other item hother =>
      intro depth x hx
      rw [operand, ofItem, accepted_reject] at hx
      · cases hx
      · exact hother
  exact hsequence (fun item _ => hoperand item depth) h

/-- An accepted sequence has the comparisons of the marker it makes up. -/
theorem comparisons_of_accepted {depth : Nat} {items : List Item} {m : Marker}
    (h : accepted (ofSequence depth items) = some m) :
    (Item.sequenceTriples items).map Item.Triple.comparison? = m.comparisons.map some := by
  refine acceptedInduction (P := fun item m =>
    item.triples.map Item.Triple.comparison? = m.comparisons.map some) ?_ ?_ h
  · intro lhs operator rhs c hc
    rw [Item.triples]
    exact congrArg (fun c => [c]) hc
  · intro v items m hchain hitems h
    have hjoin : ∀ op l r, (Marker.join op l r).comparisons.map some =
        l.comparisons.map some ++ [] ++ r.comparisons.map some := by
      simp [Marker.comparisons]
    have hkeyword : ∀ op, (Item.keyword op).triples.map Item.Triple.comparison? = [] := by
      simp [Item.triples]
    have hoperands := fun item hitem x hx => (hitems item hitem x hx).symm
    have hflat := (operandChain_flatMap hjoin hkeyword hoperands m).1 none none h
    have htriples : (Item.group items).triples = items.flatMap Item.triples :=
      Item.sequenceTriples_of_chain hchain
    rw [htriples, List.map_flatMap, hflat]
    rfl

/-- The names in an accepted sequence are those that stand on one side of a comparison. -/
theorem mem_names_of_accepted {depth : Nat} {items : List Item} {m : Marker}
    (h : accepted (ofSequence depth items) = some m) (key : String) :
    key ∈ Item.sequenceNames items ↔
      ∃ t ∈ Item.sequenceTriples items, t.lhs = .name key ∨ t.rhs = .name key := by
  have hgroup : key ∈ (Item.group items).names ↔
      ∃ t ∈ (Item.group items).triples, t.lhs = .name key ∨ t.rhs = .name key := by
    refine acceptedInduction (P := fun item _ => key ∈ item.names ↔
      ∃ t ∈ item.triples, t.lhs = .name key ∨ t.rhs = .name key) ?_ ?_ h
    · intro lhs operator rhs c hc
      rw [Item.triples, Item.names, Item.sequenceNames_eq_flatMap]
      rcases Comparison.ofItems?_sides hc with ⟨rfl, rfl⟩ | ⟨-, rfl, rfl⟩
      · simp [Item.names, eq_comm]
      · simp [Item.names, eq_comm]
    · intro v items m hchain hitems h
      have htriples : (Item.group items).triples = items.flatMap Item.triples :=
        Item.sequenceTriples_of_chain hchain
      have hmem : ∀ item ∈ items, key ∈ item.names ↔
          ∃ t ∈ item.triples, t.lhs = .name key ∨ t.rhs = .name key := by
        intro item hitem
        rcases operandChain_mem.1 none none h item hitem with ⟨x, hx⟩ | ⟨op, rfl⟩
        · exact hitems item hitem x hx
        · simp [Item.names, Item.triples]
      rw [htriples, Item.names, Item.sequenceNames_eq_flatMap]
      simp only [List.mem_flatMap]
      constructor
      · rintro ⟨item, hitem, hkey⟩
        obtain ⟨t, ht, hside⟩ := (hmem item hitem).mp hkey
        exact ⟨t, ⟨item, hitem, ht⟩, hside⟩
      · rintro ⟨t, ⟨item, hitem, ht⟩, hside⟩
        exact ⟨item, hitem, (hmem item hitem).mpr ⟨t, ht, hside⟩⟩
  exact hgroup

end Assembly

/-! ### Mentioned names -/

namespace Marker

/-- A marker that is read from a text mentions a key exactly if one of the comparisons in the items
of the text has it on the left, as the name of a variable or as a value.  Where all variables stand
on the left, these are the names that occur in the items. -/
theorem mentions_of_parse {s : String} {items : List Item} {m : Marker}
    (hitems : Item.ofText s = .ok items) (hm : (Marker.parse s).value = .ok m) (key : String) :
    (m.mentions key = true ↔
        ∃ t ∈ Item.sequenceTriples items, t.lhs = .name key ∨ t.lhs = .value key) ∧
      ((∀ t ∈ Item.sequenceTriples items, ∃ name, t.lhs = .name name) →
        (m.mentions key = true ↔ key ∈ Item.sequenceNames items)) := by
  obtain ⟨items', hitems', haccepted⟩ := parse_eq_ok_iff.mp hm
  obtain rfl := Except.ok.inj (hitems.symm.trans hitems')
  have hcomparisons := Assembly.comparisons_of_accepted haccepted
  -- Each triple is a comparison of the marker, and the other way round.
  have hof : ∀ t ∈ Item.sequenceTriples items, ∃ c ∈ m.comparisons, t.comparison? = some c := by
    intro t ht
    have hmem := List.mem_map_of_mem (f := Item.Triple.comparison?) ht
    rw [hcomparisons] at hmem
    obtain ⟨c, hc, hsome⟩ := List.mem_map.mp hmem
    exact ⟨c, hc, hsome.symm⟩
  have hto : ∀ c ∈ m.comparisons, ∃ t ∈ Item.sequenceTriples items, t.comparison? = some c := by
    intro c hc
    have hmem := List.mem_map_of_mem (f := some) hc
    rw [← hcomparisons] at hmem
    exact List.mem_map.mp hmem
  have hleft : m.mentions key = true ↔
      ∃ t ∈ Item.sequenceTriples items, t.lhs = .name key ∨ t.lhs = .value key := by
    rw [mentions_iff]
    constructor
    · rintro ⟨c, hc, rfl⟩
      obtain ⟨t, ht, htc⟩ := hto c hc
      refine ⟨t, ht, ?_⟩
      rcases Comparison.ofItems?_sides htc with ⟨hlhs, -⟩ | ⟨-, hlhs, -⟩
      · exact .inl hlhs
      · exact .inr hlhs
    · rintro ⟨t, ht, hlhs⟩
      obtain ⟨c, hc, htc⟩ := hof t ht
      refine ⟨c, hc, ?_⟩
      rcases Comparison.ofItems?_sides htc with ⟨hname, -⟩ | ⟨-, hvalue, -⟩
      · rw [hname] at hlhs
        simpa using hlhs
      · rw [hvalue] at hlhs
        simpa using hlhs
  refine ⟨hleft, fun hnames => ?_⟩
  rw [hleft, Assembly.mem_names_of_accepted haccepted]
  constructor
  · rintro ⟨t, ht, hlhs⟩
    obtain ⟨name, hname⟩ := hnames t ht
    rw [hname] at hlhs
    refine ⟨t, ht, .inl ?_⟩
    simpa [hname] using hlhs
  · rintro ⟨t, ht, hside⟩
    refine ⟨t, ht, .inl ?_⟩
    rcases hside with hlhs | hrhs
    · exact hlhs
    · -- A name on the right would have a value on the left.
      obtain ⟨name, hname⟩ := hnames t ht
      obtain ⟨c, -, htc⟩ := hof t ht
      rcases Comparison.ofItems?_sides htc with ⟨-, hvalue⟩ | ⟨-, hvalue, -⟩
      · rw [hvalue] at hrhs
        cases hrhs
      · rw [hvalue] at hname
        cases hname

theorem mentions_of_parse_nested :
    let s := "extra == 'test' and (os_name != 'nt' or python_version < '3')"
    let m := join .conj (comparison ⟨"extra", .equal, "test"⟩) (join .disj
      (comparison ⟨"os_name", .notEqual, "nt"⟩) (comparison ⟨"python_version", .less, "3"⟩))
    (Marker.parse s).value = .ok m ∧ m.mentions "os_name" = true ∧
      ¬ m.mentions "sys_platform" = true := by
  intro s m
  have hitems : Item.ofText "extra == 'test' and (os_name != 'nt' or python_version < '3')" = .ok
      [.group [.name "extra", .operator "==", .value "test"], .keyword .conj,
        .group [.group [.name "os_name", .operator "!=", .value "nt"], .keyword .disj,
          .group [.name "python_version", .operator "<", .value "3"]]] := by rfl
  have hm : (Marker.parse s).value = .ok m := by
    refine parse_eq_ok_iff.mpr ⟨_, hitems, ?_⟩
    simp (disch := simp) only [Assembly.accepted_ofSequence,
      Assembly.accepted_ofSequence_comparison, Assembly.operand_group, Assembly.operandChain,
      Assembly.connectiveChain, maxGroupDepth]
    rfl
  have hmentions := fun key => (mentions_of_parse hitems hm key).2
    (by simp [Item.sequenceTriples, Item.triples, Item.chainTriples])
  refine ⟨hm, (hmentions "os_name").mpr ?_, mt (hmentions "sys_platform").mp ?_⟩
  · simp [Item.sequenceNames, Item.names]
  · simp [Item.sequenceNames, Item.names]

/-- A variable on the right of a membership test is not mentioned, and a value on the left is, even
if it is the name of a variable. -/
theorem mentions_membership :
    ∃ items m, Item.ofText "'os_name' in sys_platform" = .ok items ∧
      (Marker.parse "'os_name' in sys_platform").value = .ok m ∧
      ("os_name" ∈ Variable.names ∧ m.mentions "os_name" = true ∧
        "os_name" ∉ Item.sequenceNames items) ∧
      "sys_platform" ∈ Variable.names ∧ m.mentions "sys_platform" = false ∧
        "sys_platform" ∈ Item.sequenceNames items := by
  have hitems : Item.ofText "'os_name' in sys_platform" =
      .ok [.group [.value "os_name", .operator "in", .name "sys_platform"]] := by rfl
  have hm : (Marker.parse "'os_name' in sys_platform").value =
      .ok (comparison ⟨"os_name", .within, "sys_platform"⟩) := by
    refine parse_eq_ok_iff.mpr ⟨_, hitems, ?_⟩
    rw [Assembly.accepted_ofSequence 0 (by simp), Assembly.operandChain, Assembly.operand_group,
      if_pos (by decide), Assembly.accepted_ofSequence_comparison]
    rfl
  refine ⟨_, _, hitems, hm, ⟨by decide, ?_, ?_⟩, by decide, ?_, ?_⟩
  · simp
  · simp [Item.sequenceNames, Item.names]
  · simp
  · simp [Item.sequenceNames, Item.names]

end Marker

end EnvMarkers
