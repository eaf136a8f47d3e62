import EnvMarkers.Proofs.ParseStages
import EnvMarkers.Proofs.Printing

/-!
# The grammar of markers

A marker is one or more atoms with connectives between them; an atom is a marker in parentheses, or
an operand, a comparator and an operand (`Lexeme.Derives`).  The reader of items accepts exactly the
sequences that the grammar derives, and reads off them the items of the derivation
(`Item.ofLexemes_iff_derives`).  The bound on parentheses is one on how deep they nest, not on how
many there are (`Lexeme.Derives.exists_nests`).

That a derived sequence is read is an induction on its derivation.  Conversely, what has been read
so far is a derivation that has been cut off: the sequence in each open parenthesis ends where an
atom has to come (`Grouping.Front`, `Grouping.Opened`), and the innermost one ends where the state
of the reader says (`Grouping.Reads`).  Each step of the reader keeps this (`Grouping.Reads.step`).
-/

namespace EnvMarkers

/-! ### Reading on behind what has been read -/

theorem foldlM_cons_of_ok {ε σ α : Type} {f : σ → α → Except ε σ} {s s' : σ} {x : α}
    (h : f s x = .ok s') (xs : List α) : (x :: xs).foldlM f s = xs.foldlM f s' := by
  rw [List.foldlM_cons, h]
  rfl

theorem foldlM_append_of_ok {ε σ α : Type} {f : σ → α → Except ε σ} {s s' : σ} {xs : List α}
    (h : xs.foldlM f s = .ok s') (ys : List α) : (xs ++ ys).foldlM f s = ys.foldlM f s' := by
  rw [List.foldlM_append, h]
  rfl

namespace Lexeme

/-! ### The grammar -/

/-- The lexemes that are a side of a comparison, and the items they stand for. -/
inductive IsOperand : Lexeme → Item → Prop
  /-- A quoted text. -/
  | quoted (text : String) : IsOperand (.quoted text) (.value text)
  /-- The name of a variable in any of its spellings. -/
  | word {w name : String} (h : Variable.canonical? w = some name) :
      IsOperand (.word w) (.name name)

/-- The lexemes of a comparator, and its text. -/
inductive IsComparator : List Lexeme → String → Prop
  /-- A symbol is a comparator by itself. -/
  | symbol (s : String) : IsComparator [.symbol s] s
  /-- The word `in`. -/
  | within : IsComparator [.word "in"] "in"
  /-- The words `not` and `in`. -/
  | notWithin : IsComparator [.word "not", .word "in"] "not in"

/-- What the grammar has rules for. -/
inductive Phrase where
  /-- A marker: atoms with connectives between them. -/
  | marker
  /-- An atom: a comparison, or a marker in parentheses. -/
  | atom

/-- The grammar of markers: `Derives bound phrase depth ls items` says that the lexemes `ls` are a
phrase inside `depth` parentheses, of which there may be `bound`, and that `items` are its items. -/
inductive Derives (bound : Nat) : Phrase → Nat → List Lexeme → List Item → Prop
  /-- Two operands with a comparator between them. -/
  | comparison {depth : Nat} {left right : Lexeme} {cs : List Lexeme} {lhs rhs : Item}
    {operator : String} (hleft : IsOperand left lhs) (hcs : IsComparator cs operator)
    (hright : IsOperand right rhs) :
    Derives bound .atom depth ([left] ++ (cs ++ [right])) [.group [lhs, .operator operator, rhs]]
  /-- A marker in parentheses. -/
  | paren {depth : Nat} {ls : List Lexeme} {items : List Item} (hdepth : depth < bound)
    (h : Derives bound .marker (depth + 1) ls items) :
    Derives bound .atom depth (.openParen :: (ls ++ [.closeParen])) [.group items]
  /-- A single atom. -/
  | single {depth : Nat} {ls : List Lexeme} {items : List Item}
    (h : Derives bound .atom depth ls items) : Derives bound .marker depth ls items
  /-- Another atom behind a connective. -/
  | join {depth : Nat} {ls ms : List Lexeme} {left right : List Item}
    (hleft : Derives bound .marker depth ls left) (op : Connective)
    (hright : Derives bound .atom depth ms right) :
    Derives bound .marker depth (ls ++ ([.word op.text] ++ ms)) (left ++ .keyword op :: right)

/-- A marker may follow another one behind a connective. -/
theorem Derives.append {bound depth : Nat} {ls ms : List Lexeme} {left right : List Item}
    (hleft : Derives bound .marker depth ls left) (op : Connective)
    (hright : Derives bound .marker depth ms right) :
    Derives bound .marker depth (ls ++ ([.word op.text] ++ ms)) (left ++ .keyword op :: right) := by
  generalize hphrase : Phrase.marker = phrase at hright
  induction hright with
  | comparison => cases hphrase
  | paren => cases hphrase
  | single h ih => exact .join hleft op h
  | @join depth ms ms' right right' hms op' hright ih ihright =>
    have hjoin := Derives.join (ih hleft rfl) op' hright
    simp only [List.append_assoc, List.cons_append] at hjoin ⊢
    exact hjoin

theorem operand_eq_ok_iff {l : Lexeme} {item : Item} : l.operand = .ok item ↔ IsOperand l item := by
  constructor
  · intro h
    unfold operand at h
    split at h
    · obtain rfl := Except.ok.inj h
      exact .quoted _
    · split at h
      · next name hname =>
        obtain rfl := Except.ok.inj h
        exact .word hname
      · split at h <;> cases h
    · cases h
  · intro h
    cases h with
    | quoted text => rfl
    | word hname => simp only [operand, hname]

/-! ### Derived sequences are read -/

/-- Whether lexemes that stand where a comparison has to begin group to the given items, with room
for `depth` more open parentheses. -/
def GroupTo (depth : Nat) (ls : List Lexeme) (items : List Item) : Prop :=
  ∀ enclosing current, enclosing.length + depth ≤ maxParenDepth →
    ls.foldlM Grouping.step ⟨enclosing, current, .atom⟩ =
      .ok ⟨enclosing, items.reverse ++ current, .connective⟩

/-- Lexemes in parentheses make up a group, which takes one more open parenthesis. -/
theorem GroupTo.paren {depth : Nat} {ls : List Lexeme} {items : List Item}
    (h : GroupTo depth ls items) :
    GroupTo (depth + 1) (.openParen :: (ls ++ [.closeParen])) [.group items] := by
  intro enclosing current hroom
  have hopen : Grouping.step ⟨enclosing, current, .atom⟩ .openParen =
      .ok ⟨current :: enclosing, [], .atom⟩ :=
    if_neg (by omega : ¬ enclosing.length ≥ maxParenDepth)
  have hinner := h (current :: enclosing) [] (by rw [List.length_cons]; omega)
  have hclose : Grouping.step ⟨current :: enclosing, items.reverse ++ [], .connective⟩ .closeParen =
      .ok ⟨enclosing, .group items :: current, .connective⟩ := by
    simp [Grouping.step]
  rw [foldlM_cons_of_ok hopen, foldlM_append_of_ok hinner, foldlM_cons_of_ok hclose]
  rfl

/-- Two sequences with a connective between them. -/
theorem GroupTo.join {depth : Nat} {ls ms : List Lexeme} {left right : List Item}
    (hls : GroupTo depth ls left) (op : Connective) (hms : GroupTo depth ms right) :
    GroupTo depth (ls ++ ([.word op.text] ++ ms)) (left ++ .keyword op :: right) := by
  intro enclosing current hroom
  have hop : Grouping.step ⟨enclosing, left.reverse ++ current, .connective⟩ (.word op.text) =
      .ok ⟨enclosing, .keyword op :: (left.reverse ++ current), .atom⟩ := by
    cases op <;> rfl
  rw [foldlM_append_of_ok (hls enclosing current hroom), List.singleton_append,
    foldlM_cons_of_ok hop, hms enclosing _ hroom]
  simp

/-- An operand begins a comparison where an atom has to come. -/
theorem IsOperand.step {l : Lexeme} {item : Item} (h : IsOperand l item)
    (enclosing : List (List Item)) (current : List Item) :
    Grouping.step ⟨enclosing, current, .atom⟩ l = .ok ⟨enclosing, current, .comparator l item⟩ := by
  have hitem := operand_eq_ok_iff.mpr h
  cases h with
  | quoted text => rfl
  | word hname =>
    simp only [Grouping.step]
    rw [hitem]
    rfl

theorem GroupTo.comparison {left right : Lexeme} {cs : List Lexeme} {lhs rhs : Item}
    {operator : String} (hleft : IsOperand left lhs) (hcs : IsComparator cs operator)
    (hright : IsOperand right rhs) (depth : Nat) :
    GroupTo depth ([left] ++ (cs ++ [right])) [.group [lhs, .operator operator, rhs]] := by
  intro enclosing current _
  have hoperator : cs.foldlM Grouping.step ⟨enclosing, current, .comparator left lhs⟩ =
      .ok ⟨enclosing, current, .operand left lhs operator⟩ := by
    cases hcs <;> rfl
  have hend : Grouping.step ⟨enclosing, current, .operand left lhs operator⟩ right =
      .ok ⟨enclosing, .group [lhs, .operator operator, rhs] :: current, .connective⟩ := by
    simp only [Grouping.step, operand_eq_ok_iff.mpr hright]
    rfl
  rw [List.singleton_append, foldlM_cons_of_ok (hleft.step enclosing current),
    foldlM_append_of_ok hoperator, foldlM_cons_of_ok hend]
  rfl

/-- A derived sequence groups to its items, with room for the parentheses that are left. -/
theorem Derives.groupTo {phrase : Phrase} {depth : Nat} {ls : List Lexeme} {items : List Item}
    (h : Derives maxParenDepth phrase depth ls items) :
    GroupTo (maxParenDepth - depth) ls items := by
  induction h with
  | comparison hleft hcs hright => exact .comparison hleft hcs hright _
  | @paren depth ls items hdepth h ih =>
    have hroom : maxParenDepth - (depth + 1) + 1 = maxParenDepth - depth := by omega
    exact hroom ▸ ih.paren
  | single h ih => exact ih
  | join hleft op hright ihleft ihright => exact ihleft.join op ihright

end Lexeme

open Lexeme

namespace Grouping

/-! ### What has been read is derived -/

/-- What has been read of a sequence where an atom has to come: nothing, or a marker and the
connective behind it. -/
inductive Front (depth : Nat) : List Lexeme → List Item → Prop
  /-- Nothing has been read. -/
  | start : Front depth [] []
  /-- A marker and a connective have been read. -/
  | behind {ls : List Lexeme} {items : List Item} (h : Derives maxParenDepth .marker depth ls items)
    (op : Connective) : Front depth (ls ++ [.word op.text]) (.keyword op :: items.reverse)

/-- The atom that has to come makes up a marker. -/
theorem Front.atom {depth : Nat} {before ls : List Lexeme} {current : List Item} {item : Item}
    (h : Front depth before current) (hatom : Derives maxParenDepth .atom depth ls [item]) :
    Derives maxParenDepth .marker depth (before ++ ls) (item :: current).reverse := by
  cases h with
  | start => exact .single hatom
  | @behind ls' items hmarker op =>
    have hjoin := Derives.join hmarker op hatom
    rw [List.reverse_cons, List.reverse_cons, List.reverse_reverse, List.append_assoc,
      List.append_assoc]
    exact hjoin

/-- What has been read up to the innermost open parenthesis, this one included. -/
inductive Opened : List (List Item) → List Lexeme → Prop
  /-- No parenthesis is open. -/
  | none : Opened [] []
  /-- Inside what is open already, something has been read that an atom has to follow, and then a
  parenthesis, for which there was room. -/
  | paren {enclosing : List (List Item)} {outside before : List Lexeme} {current : List Item}
    (h : Opened enclosing outside) (hfront : Front enclosing.length before current)
    (hroom : enclosing.length < maxParenDepth) :
    Opened (current :: enclosing) (outside ++ (before ++ [.openParen]))

/-- What has been read of the innermost sequence, of which `current` are the complete items. -/
def ReadsInner (depth : Nat) (current : List Item) (inner : List Lexeme) : Expected → Prop
  | .atom => Front depth inner current
  | .comparator first lhs =>
    ∃ before, inner = before ++ [first] ∧ Front depth before current ∧ IsOperand first lhs
  | .inWord first lhs =>
    ∃ before, inner = before ++ [first, .word "not"] ∧ Front depth before current ∧
      IsOperand first lhs
  | .operand first lhs operator =>
    ∃ before cs, inner = before ++ first :: cs ∧ Front depth before current ∧
      IsOperand first lhs ∧ IsComparator cs operator
  | .connective => Derives maxParenDepth .marker depth inner current.reverse

/-- Whether a reader can be in a state behind the given lexemes. -/
def Reads (g : Grouping) (ls : List Lexeme) : Prop :=
  ∃ outside inner, ls = outside ++ inner ∧ Opened g.enclosing outside ∧
    ReadsInner g.enclosing.length g.current inner g.expected

theorem reads_start : start.Reads [] :=
  ⟨[], [], rfl, .none, .start⟩

/-- A step that stays in the innermost sequence. -/
theorem reads_inner {enclosing : List (List Item)} {current : List Item} {expected : Expected}
    {outside inner : List Lexeme} {l : Lexeme} (h : Opened enclosing outside)
    (hinner : ReadsInner enclosing.length current (inner ++ [l]) expected) :
    Reads ⟨enclosing, current, expected⟩ (outside ++ inner ++ [l]) :=
  ⟨outside, inner ++ [l], List.append_assoc .., h, hinner⟩

/-- Where an atom has to come, a lexeme other than a parenthesis is an operand. -/
theorem step_atom {enclosing : List (List Item)} {current : List Item} {l : Lexeme} {g : Grouping}
    (hl : l ≠ .openParen) (h : step ⟨enclosing, current, .atom⟩ l = .ok g) :
    ∃ lhs, IsOperand l lhs ∧ g = ⟨enclosing, current, .comparator l lhs⟩ := by
  have hbind : (l.operand >>= fun lhs => Except.ok ⟨enclosing, current, .comparator l lhs⟩) =
      .ok g := by
    cases l with
    | openParen => exact absurd rfl hl
    | _ => exact h
  obtain ⟨lhs, hlhs, hg⟩ := bind_eq_ok_iff.mp hbind
  exact ⟨lhs, operand_eq_ok_iff.mp hlhs, (Except.ok.inj hg).symm⟩

/-- A step keeps what has been read derived. -/
theorem Reads.step {g g' : Grouping} {ls : List Lexeme} {l : Lexeme} (h : g.Reads ls)
    (hstep : g.step l = .ok g') : g'.Reads (ls ++ [l]) := by
  obtain ⟨enclosing, current, expected⟩ := g
  obtain ⟨outside, inner, rfl, hopened, hinner⟩ := h
  cases expected with
  | atom =>
    by_cases hparen : l = .openParen
    · subst hparen
      simp only [Grouping.step] at hstep
      split_ifs at hstep with hdeep
      obtain rfl := Except.ok.inj hstep
      have hroom : enclosing.length < maxParenDepth := by omega
      exact ⟨outside ++ (inner ++ [.openParen]), [], by simp, .paren hopened hinner hroom, .start⟩
    · obtain ⟨lhs, hlhs, rfl⟩ := step_atom hparen hstep
      exact reads_inner hopened ⟨inner, rfl, hinner, hlhs⟩
  | comparator first lhs =>
    obtain ⟨before, rfl, hfront, hlhs⟩ := hinner
    simp only [Grouping.step] at hstep
    split at hstep
    · next s =>
      obtain rfl := Except.ok.inj hstep
      refine reads_inner hopened ?_
      exact ⟨before, [.symbol s], by simp, hfront, hlhs, .symbol s⟩
    · obtain rfl := Except.ok.inj hstep
      refine reads_inner hopened ?_
      exact ⟨before, [.word "in"], by simp, hfront, hlhs, .within⟩
    · obtain rfl := Except.ok.inj hstep
      refine reads_inner hopened ?_
      exact ⟨before, by simp, hfront, hlhs⟩
    · cases hstep
  | inWord first lhs =>
    obtain ⟨before, rfl, hfront, hlhs⟩ := hinner
    simp only [Grouping.step] at hstep
    split at hstep
    · obtain rfl := Except.ok.inj hstep
      refine reads_inner hopened ?_
      exact ⟨before, [.word "not", .word "in"], by simp, hfront, hlhs, .notWithin⟩
    · cases hstep
  | operand first lhs operator =>
    obtain ⟨before, cs, rfl, hfront, hlhs, hcs⟩ := hinner
    obtain ⟨rhs, hrhs, hnext⟩ := bind_eq_ok_iff.mp hstep
    obtain rfl := Except.ok.inj hnext
    have hmarker := hfront.atom (.comparison hlhs hcs (operand_eq_ok_iff.mp hrhs))
    have hlexemes : before ++ ([first] ++ (cs ++ [l])) = before ++ first :: cs ++ [l] := by simp
    exact reads_inner hopened (hlexemes ▸ hmarker)
  | connective =>
    simp only [Grouping.step] at hstep
    split at hstep
    · obtain rfl := Except.ok.inj hstep
      have hfront := Front.behind hinner .conj
      rw [List.reverse_reverse] at hfront
      exact reads_inner hopened hfront
    · obtain rfl := Except.ok.inj hstep
      have hfront := Front.behind hinner .disj
      rw [List.reverse_reverse] at hfront
      exact reads_inner hopened hfront
    · split at hstep
      · next outer enclosing =>
        -- The marker in the parentheses is the atom that the sequence around them waits for.
        obtain rfl := Except.ok.inj hstep
        cases hopened with
        | @paren _ outside before _ hopened hfront hroom =>
          have hmarker := hfront.atom (.paren hroom hinner)
          exact ⟨outside, _, by simp, hopened, hmarker⟩
      all_goals cases hstep

/-- What a reader has read is derived. -/
theorem Reads.run {g g' : Grouping} {before ls : List Lexeme} (h : g.Reads before)
    (hrun : ls.foldlM Grouping.step g = .ok g') : g'.Reads (before ++ ls) := by
  induction ls generalizing g before with
  | nil =>
    obtain rfl := Except.ok.inj hrun
    rw [List.append_nil]
    exact h
  | cons l ls ih =>
    rw [List.foldlM_cons] at hrun
    obtain ⟨next, hstep, hrest⟩ := bind_eq_ok_iff.mp hrun
    have hreads := ih (h.step hstep) hrest
    rwa [List.append_assoc] at hreads

/-- A reader may end with the items of a marker that is not in parentheses. -/
theorem Reads.finish {g : Grouping} {ls : List Lexeme} {items : List Item} (h : g.Reads ls)
    (hfinish : g.finish = .ok items) : Derives maxParenDepth .marker 0 ls items := by
  obtain ⟨enclosing, current, expected⟩ := g
  obtain ⟨outside, inner, rfl, hopened, hinner⟩ := h
  cases expected with
  | connective =>
    cases hopened with
    | none =>
      obtain rfl := Except.ok.inj hfinish
      exact hinner
    | paren => cases hfinish
  | _ => cases hfinish

end Grouping

/-! ### The depth of parentheses -/

namespace Lexeme

/-- The lexemes of a comparison are no parentheses. -/
theorem nests_comparison {left right : Lexeme} {cs : List Lexeme} {lhs rhs : Item}
    {operator : String} (hleft : IsOperand left lhs) (hcs : IsComparator cs operator)
    (hright : IsOperand right rhs) : Nests 0 ([left] ++ (cs ++ [right])) := by
  have hoperand : ∀ {l : Lexeme} {item : Item}, IsOperand l item →
      l ≠ .openParen ∧ l ≠ .closeParen := by
    intro l item h
    cases h <;> exact ⟨nofun, nofun⟩
  have hcomparator : .openParen ∉ cs ∧ .closeParen ∉ cs := by
    cases hcs <;> simp
  obtain ⟨hopenLeft, hcloseLeft⟩ := hoperand hleft
  obtain ⟨hopenRight, hcloseRight⟩ := hoperand hright
  apply nests_of_not_mem
  · simp [hcomparator, hopenLeft.symm, hopenRight.symm]
  · simp [hcomparator, hcloseLeft.symm, hcloseRight.symm]

/-- The bound on parentheses is one on their nesting: a derivation keeps to it, and is one under
every bound that leaves room for the nesting. -/
theorem Derives.exists_nests {bound : Nat} {phrase : Phrase} {depth : Nat} {ls : List Lexeme}
    {items : List Item} (h : Derives bound phrase depth ls items) :
    ∃ nested, Nests nested ls ∧ (depth ≤ bound → depth + nested ≤ bound) ∧
      ∀ other, depth + nested ≤ other → Derives other phrase depth ls items := by
  induction h with
  | comparison hleft hcs hright =>
    exact ⟨0, nests_comparison hleft hcs hright, id, fun _ _ => .comparison hleft hcs hright⟩
  | @paren depth ls items hdepth h ih =>
    obtain ⟨nested, hnests, hle, hother⟩ := ih
    refine ⟨nested + 1, hnests.parensIf true, fun _ => ?_, fun other hroom => ?_⟩
    · have hinner := hle hdepth
      omega
    · exact .paren (by omega) (hother other (by omega))
  | single h ih =>
    obtain ⟨nested, hnests, hle, hother⟩ := ih
    exact ⟨nested, hnests, hle, fun other hroom => .single (hother other hroom)⟩
  | @join depth ls ms left right hleft op hright ihleft ihright =>
    obtain ⟨nestedLeft, hnestsLeft, hleLeft, hotherLeft⟩ := ihleft
    obtain ⟨nestedRight, hnestsRight, hleRight, hotherRight⟩ := ihright
    have hop : Nests 0 [.word op.text] := nests_of_not_mem (by simp) (by simp)
    have hnests := hnestsLeft.append (hop.append hnestsRight)
    rw [Nat.zero_max] at hnests
    refine ⟨max nestedLeft nestedRight, hnests, fun hdepth => ?_, fun other hroom => ?_⟩
    · have hleft := hleLeft hdepth
      have hright := hleRight hdepth
      omega
    · exact .join (hotherLeft other (by omega)) op (hotherRight other (by omega))

/-- A marker is derived under a bound if it is derived at all and its parentheses do not nest
deeper. -/
theorem derives_iff_nesting_le {bound : Nat} {ls : List Lexeme} {items : List Item} :
    Derives bound .marker 0 ls items ↔
      (∃ other, Derives other .marker 0 ls items) ∧ nesting ls ≤ bound := by
  constructor
  · intro h
    obtain ⟨nested, hnests, hle, -⟩ := h.exists_nests
    have hbound := hle (Nat.zero_le _)
    rw [hnests.nesting_eq]
    exact ⟨⟨bound, h⟩, by omega⟩
  · rintro ⟨⟨other, h⟩, hbound⟩
    obtain ⟨nested, hnests, -, hother⟩ := h.exists_nests
    rw [hnests.nesting_eq] at hbound
    exact hother bound (by omega)

end Lexeme

/-! ### Reading items -/

/-- The reader of items accepts what the grammar derives. -/
theorem Item.ofLexemes_eq_ok_iff {ls : List Lexeme} {items : List Item} :
    Item.ofLexemes ls = .ok items ↔ Derives maxParenDepth .marker 0 ls items := by
  constructor
  · intro h
    obtain ⟨last, hrun, hfinish⟩ := bind_eq_ok_iff.mp h
    exact (Grouping.reads_start.run hrun).finish hfinish
  · intro h
    have hgroup := h.groupTo [] [] (by simp)
    rw [Item.ofLexemes, Grouping.start, hgroup]
    show Grouping.finish ⟨[], items.reverse ++ [], .connective⟩ = _
    simp [Grouping.finish]

/-- The reader of items accepts exactly what the grammar derives, and gives the items of the
derivation, of which there are no others.  Its bound concerns only how deep parentheses nest. -/
theorem Item.ofLexemes_iff_derives (ls : List Lexeme) :
    (∀ items, Item.ofLexemes ls = .ok items ↔ Derives maxParenDepth .marker 0 ls items) ∧
      (∀ items other, Derives maxParenDepth .marker 0 ls items →
        Derives maxParenDepth .marker 0 ls other → items = other) ∧
      ∀ items, Derives maxParenDepth .marker 0 ls items ↔
        (∃ bound, Derives bound .marker 0 ls items) ∧ Lexeme.nesting ls ≤ maxParenDepth := by
  refine ⟨fun items => Item.ofLexemes_eq_ok_iff, ?_, fun items => derives_iff_nesting_le⟩
  intro items other hitems hother
  -- The reader gives a single answer.
  have hread := Item.ofLexemes_eq_ok_iff.mpr hitems
  rw [Item.ofLexemes_eq_ok_iff.mpr hother] at hread
  exact (Except.ok.inj hread).symm

end EnvMarkers
