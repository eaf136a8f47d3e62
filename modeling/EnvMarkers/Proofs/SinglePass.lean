import EnvMarkers.Proofs.CollapseChain

/-!
# The single pass and collapsing

The single pass over a sequence of items builds the same markers as collapsing does, from all
sequences whose groups are not nested too deeply, and rejects all other sequences
(`Marker.ofItems_eq_ok_iff_byCollapsing`).

Both read a sequence as a chain (`Marker.byCollapsing_eq_operandChain`), whose operands have the
same markers in both ways where there is room for the groups in them
(`Assembly.operand_eq_some_iff`).  Groups that a collapse makes are not among those.
-/

namespace EnvMarkers

/-! ### Building by collapsing is reading a chain -/

namespace Marker

open Assembly

theorem joins_ofSole : Joins ofSole where
  keyword op := by simp [ofSole, byShape]
  group left op right := by
    rw [ofSole_group, byCollapsing_short (by simp), byShape]
    rfl

/-- What collapsing leaves of a long sequence has no other shape than a single operand. -/
theorem byShape_of_collapse {items items' : List Item} (hlong : items.length > 3)
    (h : Item.collapse items = some items') : byShape items' = sole ofSole items' := by
  obtain ⟨hnot, hchanged⟩ := Item.mem_collapse h
  -- The shapes that could be in the way are a join and a comparison.
  match items' with
  | [] => simp [byShape, sole]
  | [item] => rfl
  | [first, second] => simp [byShape, sole]
  | [first, .operator operator, third] =>
    -- The group that was made would be a side of the comparison.
    rw [byShape]
    cases hcomparison : Comparison.ofItems? first operator third with
    | none => rfl
    | some c =>
      obtain ⟨hfirst, hthird⟩ := Comparison.ofItems?_eq_some hcomparison
      rcases hchanged with rfl | ⟨inner, hinner⟩
      · exact absurd hlong (by simp)
      · simp [eq_comm, hfirst inner, hthird inner] at hinner
  | [first, .keyword op, third] => exact absurd (by simp) (hnot op)
  | [_, .name _, _] | [_, .value _, _] | [_, .group _, _] => simp [byShape, sole]
  | _ :: _ :: _ :: _ :: _ => simp [byShape, sole]

/-- Building by collapsing is reading a chain, for all sequences but bare comparisons. -/
theorem byCollapsing_eq_operandChain {items : List Item}
    (h : ∀ lhs operator rhs, items ≠ [lhs, .operator operator, rhs]) :
    byCollapsing items = operandChain ofSole none none items := by
  by_cases hlong : items.length > 3
  · -- Collapsing leaves the chain as it is.
    rw [byCollapsing_long hlong, operandChain_collapse joins_ofSole]
    cases hcollapse : Item.collapse items with
    | none => rfl
    | some items' => exact byShape_of_collapse hlong hcollapse
  -- A short sequence is not collapsed, and its shapes are those of short chains.
  rw [byCollapsing_short (by omega), operandChain_eq_shortChain _ (by omega)]
  match items with
  | [] => simp [byShape, shortChain]
  | [item] => rfl
  | [first, second] => simp [byShape, shortChain]
  | [left, .keyword op, right] =>
    rw [byShape, shortChain]
    rfl
  | [left, .operator text, right] => exact absurd rfl (h left text right)
  | [_, .name _, _] | [_, .value _, _] | [_, .group _, _] => simp [byShape, shortChain]
  | _ :: _ :: _ :: _ :: _ => exact absurd (by simp) hlong

end Marker

/-! ### The shape of a sequence and the depth of its groups -/

namespace Item

/-- A sequence is a bare comparison, or a chain if anything. -/
theorem bare_or_chain (items : List Item) :
    (∃ lhs operator rhs, items = [lhs, .operator operator, rhs]) ∨
      ∀ lhs operator rhs, items ≠ [lhs, .operator operator, rhs] := by
  by_cases hbare : ∃ lhs operator rhs, items = [lhs, .operator operator, rhs]
  · exact .inl hbare
  · exact .inr fun lhs operator rhs heq => hbare ⟨lhs, operator, rhs, heq⟩

/-- What is true of a group if it is true of each item in it, and of all other items, is true of
every item. -/
theorem groupInduction {P : Item → Prop}
    (group : ∀ items, (∀ item ∈ items, P item) → P (.group items))
    (other : ∀ item, (∀ items, item ≠ .group items) → P item) (item : Item) : P item :=
  @Item.rec P (fun items => ∀ item ∈ items, P item)
    (fun _ => other _ nofun) (fun _ => other _ nofun) (fun _ => other _ nofun)
    (fun _ => other _ nofun) group nofun
    (fun _ _ hitem hrest => List.forall_mem_cons.mpr ⟨hitem, hrest⟩) item

mutual

/-- How many groups stand around each other in an item. -/
def nesting : Item → Nat
  | group items => sequenceNesting items + 1
  | _ => 0

/-- How many groups stand around each other in a sequence of items. -/
def sequenceNesting : List Item → Nat
  | [] => 0
  | item :: rest => max item.nesting (sequenceNesting rest)

end

theorem nesting_eq_zero {item : Item} (h : ∀ inner, item ≠ .group inner) : item.nesting = 0 := by
  unfold nesting
  cases item with
  | group inner => exact absurd rfl (h inner)
  | _ => rfl

/-- There is room for the groups in a sequence exactly if there is for those in each item. -/
theorem add_sequenceNesting_le_iff {depth bound : Nat} (hdepth : depth ≤ bound)
    (items : List Item) :
    depth + sequenceNesting items ≤ bound ↔ ∀ item ∈ items, depth + item.nesting ≤ bound := by
  induction items with
  | nil => simp [sequenceNesting, hdepth]
  | cons item rest ih =>
    rw [List.forall_mem_cons, ← ih, sequenceNesting]
    omega

/-- A connective adds no groups. -/
theorem sequenceNesting_join (left : List Item) (op : Connective) (right : List Item) :
    sequenceNesting (left ++ .keyword op :: right) =
      max (sequenceNesting left) (sequenceNesting right) := by
  induction left with
  | nil => simp [sequenceNesting, nesting]
  | cons item left ih => rw [List.cons_append, sequenceNesting, ih, sequenceNesting, Nat.max_assoc]

end Item

namespace Assembly

/-- Operands that have the same markers where there is room for them make up chains that have the
same markers where there is room for all of them. -/
theorem operandChain_eq_some_congr {v u : Item → Option Marker} {room : Item → Prop}
    (hkeyword : ∀ op, room (.keyword op)) {items : List Item}
    (h : ∀ item ∈ items, ∀ m, v item = some m ↔ u item = some m ∧ room item) (m : Marker) :
    (∀ sum run, operandChain v sum run items = some m ↔
        operandChain u sum run items = some m ∧ ∀ item ∈ items, room item) ∧
      ∀ sum run, connectiveChain v sum run items = some m ↔
        connectiveChain u sum run items = some m ∧ ∀ item ∈ items, room item := by
  induction items with
  | nil => simp [operandChain, connectiveChain]
  | cons item rest ih =>
    rw [List.forall_mem_cons] at h
    obtain ⟨ihOperand, ihConnective⟩ := ih h.2
    constructor
    · intro sum run
      simp only [operandChain, Option.bind_eq_some_iff, h.1, ihConnective, List.forall_mem_cons]
      constructor
      · rintro ⟨x, ⟨hx, hroom⟩, hrest, hrooms⟩
        exact ⟨⟨x, hx, hrest⟩, hroom, hrooms⟩
      · rintro ⟨⟨x, hx, hrest⟩, hroom, hrooms⟩
        exact ⟨x, ⟨hx, hroom⟩, hrest, hrooms⟩
    · -- A connective needs no room, and other items are not looked at here.
      intro sum run
      cases item with
      | keyword op =>
        cases op with
        | conj => simp only [connectiveChain, ihOperand, List.forall_mem_cons, hkeyword, true_and]
        | disj => simp only [connectiveChain, ihOperand, List.forall_mem_cons, hkeyword, true_and]
      | _ => simp [connectiveChain]

/-- The comparison of three items is the same in both ways of building. -/
theorem accepted_comparison (lhs : Item) (operator : String) (rhs : Item) :
    accepted (comparison lhs operator rhs) =
      (Comparison.ofItems? lhs operator rhs).map .comparison := by
  unfold comparison Comparison.ofItems?
  cases Comparator.ofText? operator with
  | none => cases lhs <;> cases rhs <;> rfl
  | some comparator =>
    cases lhs with
    | name key => cases rhs <;> rfl
    | value text =>
      cases rhs with
      | name key =>
        cases hmember : comparator.isMembership
        · simp [hmember]
        · simp [hmember]
      | _ => rfl
    | _ => rfl

theorem accepted_ofSequence_comparison (depth : Nat) (lhs : Item) (operator : String) (rhs : Item) :
    accepted (ofSequence depth [lhs, .operator operator, rhs]) =
      (Comparison.ofItems? lhs operator rhs).map .comparison := by
  rw [ofSequence, if_neg (by simp), ofShort, accepted_comparison]

/-- A sequence is accepted exactly if it is a marker by collapsing and there is room for its groups,
if that is so for each of its items. -/
theorem accepted_ofSequence_eq_some_iff {depth : Nat} (hdepth : depth ≤ maxGroupDepth)
    {items : List Item} (h : ∀ item ∈ items, ∀ m, operand depth item = some m ↔
      Marker.ofSole item = some m ∧ depth + item.nesting ≤ maxGroupDepth) (m : Marker) :
    accepted (ofSequence depth items) = some m ↔
      Marker.byCollapsing items = some m ∧ depth + Item.sequenceNesting items ≤ maxGroupDepth := by
  rw [Item.add_sequenceNesting_le_iff hdepth]
  rcases Item.bare_or_chain items with ⟨lhs, operator, rhs, rfl⟩ | hchain
  · rw [accepted_ofSequence_comparison, Marker.byCollapsing_short (by simp), Marker.byShape]
    refine ⟨fun hm => ⟨hm, ?_⟩, fun hm => hm.1⟩
    -- The sides of a comparison are no groups.
    obtain ⟨c, hc, -⟩ := Option.map_eq_some_iff.mp hm
    obtain ⟨hlhs, hrhs⟩ := Comparison.ofItems?_eq_some hc
    have hnesting : ∀ item ∈ [lhs, .operator operator, rhs], item.nesting = 0 := by
      simp [Item.nesting_eq_zero hlhs, Item.nesting_eq_zero hrhs, Item.nesting]
    intro item hitem
    have hzero := hnesting item hitem
    omega
  · rw [accepted_ofSequence depth hchain, Marker.byCollapsing_eq_operandChain hchain]
    exact (operandChain_eq_some_congr (fun _ => hdepth) h m).1 none none

/-- An item is accepted as an operand exactly if it is one by collapsing and there is room for the
groups in it. -/
theorem operand_eq_some_iff {depth : Nat} (hdepth : depth ≤ maxGroupDepth) (item : Item)
    (m : Marker) : operand depth item = some m ↔
      Marker.ofSole item = some m ∧ depth + item.nesting ≤ maxGroupDepth := by
  induction item using Item.groupInduction generalizing depth m with
  | group items ih =>
    rw [operand_group, Marker.ofSole_group, Item.nesting]
    by_cases hroom : depth < maxGroupDepth
    · -- The items of the group have one level less.
      have hinner : depth + 1 ≤ maxGroupDepth := hroom
      have hitems := fun item hitem => ih item hitem hinner
      rw [if_pos hroom, accepted_ofSequence_eq_some_iff hinner hitems, Nat.add_right_comm,
        Nat.add_assoc]
    · rw [if_neg hroom]
      constructor
      · intro h
        cases h
      · rintro ⟨-, hle⟩
        omega
  | other item hother =>
    -- Apart from groups, no item is an operand in either way.
    have hoperand : operand depth item = none := by
      rw [operand, ofItem, accepted_reject]
      exact hother
    have hsole : Marker.ofSole item = none := by
      rw [Marker.ofSole, Marker.byShape]
      · exact fun items heq => hother items (List.singleton_inj.mp heq)
      all_goals simp
    simp only [hoperand, hsole, reduceCtorEq, false_and]

end Assembly

namespace Marker

/-- The single pass builds a marker exactly from the sequences from which collapsing builds it and
whose groups are not nested too deeply, and rejects all other sequences. -/
theorem ofItems_eq_ok_iff_byCollapsing (items : List Item) :
    (∀ m, (ofItems items).value = .ok m ↔
        byCollapsing items = some m ∧ Item.sequenceNesting items ≤ maxGroupDepth) ∧
      ((∃ fault, (ofItems items).value = .error fault) ↔
        byCollapsing items = none ∨ maxGroupDepth < Item.sequenceNesting items) := by
  have hiff : ∀ m, (ofItems items).value = .ok m ↔
      byCollapsing items = some m ∧ Item.sequenceNesting items ≤ maxGroupDepth := by
    intro m
    have hroom : 0 ≤ maxGroupDepth := Nat.zero_le _
    rw [ofItems, ← Assembly.accepted_eq_some, Assembly.accepted_ofSequence_eq_some_iff hroom
      fun item _ => Assembly.operand_eq_some_iff hroom item, Nat.zero_add]
  refine ⟨hiff, ?_⟩
  cases hvalue : (ofItems items).value with
  | error fault =>
    refine ⟨fun _ => ?_, fun _ => ⟨fault, rfl⟩⟩
    -- What collapsing builds with room for the groups would have been built.
    cases hmarker : byCollapsing items with
    | none => exact .inl rfl
    | some m =>
      refine .inr (Nat.lt_of_not_le fun hroom => ?_)
      have hok := (hiff m).mpr ⟨hmarker, hroom⟩
      rw [hvalue] at hok
      cases hok
  | ok m =>
    obtain ⟨hmarker, hroom⟩ := (hiff m).mp hvalue
    rw [hmarker]
    constructor
    · rintro ⟨fault, hfault⟩
      cases hfault
    · rintro (hnone | hdeep)
      · cases hnone
      · omega

end Marker

end EnvMarkers
