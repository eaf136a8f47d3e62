import EnvMarkers.Marker.Basic
import EnvMarkers.Marker.Item
import Mathlib.Tactic.SplitIfs

/-!
# Building by collapsing

Another way to build a marker from items, which rewrites the sequence instead of going over it once:
in a sequence of more than three items the three around the first `and` become a group, then those
around the first `and` of what is left, and so on until there is none, and the same is done for `or`
(`Item.collapse`).  What is left is read by its shape (`Marker.byCollapsing`).  There is no limit to
the depth of groups.

A collapse makes a sequence shorter but its items heavier, so that building ends
(`Item.collapse_weight_lt`).  It leaves no connectives and adds nothing but groups
(`Item.mem_collapse`).
-/

namespace EnvMarkers

namespace Item

/-! ### Collapsing -/

/-- Makes a group of the first connective `op` and the items on both sides of it, if there are
such items. -/
def collapseFirst (op : Connective) : List Item → Option (List Item)
  | first :: second :: rest =>
    if first.connective? = some op then none
    else if second.connective? = some op then
      match rest with
      | [] => none
      | third :: rest => some (.group [first, second, third] :: rest)
    else (collapseFirst op (second :: rest)).map (first :: ·)
  | _ => none

/-- How much work the items of a sequence are.  Only sequences of more than three items are
collapsed, and only for them does it matter how long they are. -/
def collapseCost (items : List Item) : Nat :=
  if items.length > 3 then items.length else 0

mutual

/-- How much work an item is. -/
def weight : Item → Nat
  | group items => sequenceWeight items + collapseCost items + 1
  | _ => 1

/-- How much work the items of a sequence are, without that of collapsing it. -/
def sequenceWeight : List Item → Nat
  | [] => 0
  | item :: rest => item.weight + sequenceWeight rest

end

theorem eq_keyword_of_connective? {item : Item} {op : Connective}
    (h : item.connective? = some op) : item = .keyword op := by
  cases item with
  | keyword op' => exact congrArg keyword (Option.some.inj h)
  | _ => cases h

/-- A collapse takes two items away from the sequence, and adds a group of three to it. -/
theorem collapseFirst_length_weight {op : Connective} {items items' : List Item}
    (h : collapseFirst op items = some items') :
    items'.length + 2 = items.length ∧ sequenceWeight items' = sequenceWeight items + 1 := by
  fun_induction collapseFirst op items generalizing items' with
  | case1 first second rest hfirst => cases h
  | case2 first second hfirst hsecond => cases h
  | case3 first second hfirst hsecond third rest =>
    obtain rfl := Option.some.inj h
    -- The group costs one more than its items, since it is too short to be collapsed.
    simp [sequenceWeight, weight, collapseCost]
    omega
  | case4 first second rest hfirst hsecond ih =>
    obtain ⟨items'', hitems, rfl⟩ := Option.map_eq_some_iff.mp h
    obtain ⟨hlength, hweight⟩ := ih hitems
    simp only [List.length_cons, sequenceWeight] at hlength hweight ⊢
    omega
  | case5 items hitems => cases h

/-- Collapses a sequence at the connective `op` until it is not in the sequence any more. -/
def collapseAll (op : Connective) (items : List Item) : Option (List Item) :=
  if items.any (·.connective? = some op) then
    match h : collapseFirst op items with
    | none => none
    | some items' =>
      have hlength : items'.length < items.length := by
        have := (collapseFirst_length_weight h).1
        omega
      collapseAll op items'
  else some items
termination_by items.length

/-- Collapses a sequence at every `and`, then at every `or`. -/
def collapse (items : List Item) : Option (List Item) :=
  (collapseAll .conj items).bind (collapseAll .disj)

/-- Collapsing is work that is done in advance: what a sequence gets shorter, its items get heavier
by half. -/
theorem collapseAll_weight {op : Connective} {items items' : List Item}
    (h : collapseAll op items = some items') :
    2 * sequenceWeight items' + items'.length = 2 * sequenceWeight items + items.length := by
  fun_induction collapseAll op items with
  | case1 items hmem hnone => cases h
  | case2 items hmem next hnext hlength ih =>
    have hstep := collapseFirst_length_weight hnext
    rw [ih h]
    omega
  | case3 items hmem =>
    obtain rfl := Option.some.inj h
    rfl

theorem collapse_weight {items items' : List Item} (h : collapse items = some items') :
    2 * sequenceWeight items' + items'.length = 2 * sequenceWeight items + items.length := by
  obtain ⟨between, hconj, hdisj⟩ := Option.bind_eq_some_iff.mp h
  rw [collapseAll_weight hdisj, collapseAll_weight hconj]

/-- A sequence that is collapsed is less work afterwards. -/
theorem collapse_weight_lt {items items' : List Item} (h : collapse items = some items')
    (hlong : items.length > 3) :
    sequenceWeight items' < sequenceWeight items + collapseCost items := by
  have hweight := collapse_weight h
  rw [collapseCost, if_pos hlong]
  omega

/-! ### The items of a collapsed sequence -/

/-- A sequence that is collapsed begins with a group or with the same item as before. -/
theorem collapseFirst_head {op : Connective} {item : Item} {rest items' : List Item}
    (h : collapseFirst op (item :: rest) = some items') :
    ∃ head tail, items' = head :: tail ∧ (head = item ∨ ∃ items, head = .group items) := by
  cases rest with
  | nil => cases h
  | cons second rest =>
    unfold collapseFirst at h
    split_ifs at h with hfirst hsecond
    · cases rest with
      | nil => cases h
      | cons third rest =>
        obtain rfl := Option.some.inj h
        exact ⟨_, _, rfl, .inr ⟨_, rfl⟩⟩
    · obtain ⟨tail, -, rfl⟩ := Option.map_eq_some_iff.mp h
      exact ⟨item, tail, rfl, .inl rfl⟩

/-- A collapse makes a group, and adds nothing else to a sequence. -/
theorem mem_collapseFirst {op : Connective} {items items' : List Item}
    (h : collapseFirst op items = some items') :
    (∃ inner, .group inner ∈ items') ∧
      ∀ item ∈ items', item ∈ items ∨ ∃ inner, item = .group inner := by
  fun_induction collapseFirst op items generalizing items' with
  | case1 first second rest hfirst => cases h
  | case2 first second hfirst hsecond => cases h
  | case3 first second hfirst hsecond third rest =>
    obtain rfl := Option.some.inj h
    refine ⟨⟨_, List.mem_cons_self⟩, fun item hitem => ?_⟩
    rcases List.mem_cons.mp hitem with rfl | hrest
    · exact .inr ⟨_, rfl⟩
    · exact .inl (by simp [hrest])
  | case4 first second rest hfirst hsecond ih =>
    obtain ⟨tail, htail, rfl⟩ := Option.map_eq_some_iff.mp h
    obtain ⟨⟨inner, hinner⟩, hmem⟩ := ih htail
    refine ⟨⟨inner, List.mem_cons_of_mem _ hinner⟩, fun item hitem => ?_⟩
    rcases List.mem_cons.mp hitem with rfl | hrest
    · exact .inl List.mem_cons_self
    · exact (hmem item hrest).imp_left (List.mem_cons_of_mem _)
  | case5 items hitems => cases h

theorem any_connective?_iff {op : Connective} {items : List Item} :
    items.any (·.connective? = some op) = true ↔ .keyword op ∈ items := by
  rw [List.any_eq_true]
  constructor
  · rintro ⟨item, hmem, hop⟩
    exact eq_keyword_of_connective? (of_decide_eq_true hop) ▸ hmem
  · intro hmem
    exact ⟨_, hmem, decide_eq_true rfl⟩

/-- Collapsing at a connective leaves none of it.  It adds nothing but groups, and if it does
anything at all it makes one. -/
theorem mem_collapseAll {op : Connective} {items items' : List Item}
    (h : collapseAll op items = some items') :
    .keyword op ∉ items' ∧ (items' = items ∨ ∃ inner, .group inner ∈ items') ∧
      ∀ item ∈ items', item ∈ items ∨ ∃ inner, item = .group inner := by
  fun_induction collapseAll op items with
  | case1 items hmem hnone => cases h
  | case2 items hmem next hnext hlength ih =>
    obtain ⟨hgroup, hadded⟩ := mem_collapseFirst hnext
    obtain ⟨hnot, hchanged, hadded'⟩ := ih h
    refine ⟨hnot, .inr ?_, fun item hitem => ?_⟩
    · rcases hchanged with rfl | hgroup'
      · exact hgroup
      · exact hgroup'
    · rcases hadded' item hitem with hitem' | hgroup'
      · exact hadded item hitem'
      · exact .inr hgroup'
  | case3 items hmem =>
    obtain rfl := Option.some.inj h
    exact ⟨fun hop => hmem (any_connective?_iff.mpr hop), .inl rfl, fun item hitem => .inl hitem⟩

/-- A collapsed sequence has no connectives, and if it is not the one that there was before, there
is a group in it. -/
theorem mem_collapse {items items' : List Item} (h : collapse items = some items') :
    (∀ op, .keyword op ∉ items') ∧ (items' = items ∨ ∃ inner, .group inner ∈ items') := by
  obtain ⟨between, hconj, hdisj⟩ := Option.bind_eq_some_iff.mp h
  obtain ⟨hnotConj, hchanged, -⟩ := mem_collapseAll hconj
  obtain ⟨hnotDisj, hchanged', hadded⟩ := mem_collapseAll hdisj
  constructor
  · intro op
    cases op with
    | conj =>
      intro hop
      rcases hadded _ hop with hop' | ⟨inner, hinner⟩
      · exact hnotConj hop'
      · cases hinner
    | disj => exact hnotDisj
  · rcases hchanged' with rfl | hgroup
    · exact hchanged
    · exact .inr hgroup

/-- An `and` is collapsed before an `or` to its left. -/
example : collapse [.value "a", .keyword .disj, .value "b", .keyword .conj, .value "c"] =
    some [.group [.value "a", .keyword .disj,
      .group [.value "b", .keyword .conj, .value "c"]]] := by
  cbv

end Item

/-! ### Building -/

/-- The comparison that three items make up: a variable under any comparator with a value, or a
value under a membership test with a variable. -/
def Comparison.ofItems? (lhs : Item) (operator : String) (rhs : Item) : Option Comparison :=
  match lhs, Comparator.ofText? operator, rhs with
  | .name key, some comparator, .value text => some ⟨key, comparator, text⟩
  | .value text, some comparator, .name key =>
    if comparator.isMembership then some ⟨text, comparator, key⟩ else none
  | _, _, _ => none

/-- A comparison has no groups as sides. -/
theorem Comparison.ofItems?_eq_some {lhs rhs : Item} {operator : String} {c : Comparison}
    (h : Comparison.ofItems? lhs operator rhs = some c) :
    (∀ inner, lhs ≠ .group inner) ∧ ∀ inner, rhs ≠ .group inner := by
  constructor
  · rintro inner rfl
    simp [Comparison.ofItems?] at h
  · rintro inner rfl
    simp [Comparison.ofItems?] at h

namespace Marker

mutual

/-- The marker of a sequence of items: one of more than three is collapsed, and what is left is
read by its shape. -/
def byCollapsing (items : List Item) : Option Marker :=
  if hlong : items.length > 3 then
    match h : Item.collapse items with
    | none => none
    | some items' =>
      have := Item.collapse_weight_lt h hlong
      byShape items'
  else byShape items
termination_by (Item.sequenceWeight items + Item.collapseCost items, 1)
decreasing_by
  · exact Prod.Lex.left _ _ this
  · have hcost : Item.collapseCost items = 0 := if_neg hlong
    rw [hcost]
    exact Prod.Lex.right _ Nat.one_pos

/-- The marker of a sequence of one item, of two items and the connective between them, or of a
comparison. -/
def byShape : List Item → Option Marker
  | [.group items] => byCollapsing items
  | [left, .keyword op, right] =>
    (byShape [left]).bind fun l => (byShape [right]).bind fun r => some (.join op l r)
  | [lhs, .operator operator, rhs] => (Comparison.ofItems? lhs operator rhs).map .comparison
  | _ => none
termination_by items => (Item.sequenceWeight items, 0)
decreasing_by
  all_goals
    apply Prod.Lex.left
    simp only [Item.sequenceWeight, Item.weight]
    omega

end

/-- The marker of a single operand. -/
def ofSole (item : Item) : Option Marker :=
  byShape [item]

theorem ofSole_group (items : List Item) : ofSole (.group items) = byCollapsing items := by
  rw [ofSole, byShape]

theorem byCollapsing_short {items : List Item} (h : items.length ≤ 3) :
    byCollapsing items = byShape items := by
  rw [byCollapsing, dif_neg (by omega)]

theorem byCollapsing_long {items : List Item} (h : items.length > 3) :
    byCollapsing items = (Item.collapse items).bind byShape := by
  rw [byCollapsing, dif_pos h]
  split
  · next hnone => exact (congrArg (Option.bind · byShape) hnone).symm
  · next items' hsome => exact (congrArg (Option.bind · byShape) hsome).symm

end Marker

end EnvMarkers
