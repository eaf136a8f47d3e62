import EnvMarkers.Event

/-!
# From items to marker trees

A sequence of up to three items is an operand, a join of two operands, or a comparison; a longer
one is a chain of operands and connectives.  In a chain `and` binds tighter than `or` and both
group to the left, so `a and b or c` is the join of `a and b` with `c`.

Every rejection is reported where it is found (`reject`), and the operands of a sequence are
assembled from left to right, so nothing behind a rejected item is looked at.
-/

namespace EnvMarkers

/-- The outcome of assembling a marker, with what was reported on the way. -/
abbrev Assembly (α : Type) := ExceptT ShapeFault Logged α

namespace Assembly

/-- Reports a fault and gives up. -/
def reject {α : Type} (fault : ShapeFault) : Assembly α := do
  Logged.report (.rejected fault)
  throw fault

/-- The comparison of two items under the operator with the given text.  A membership test may
have the variable on the right, and keeps its sides in the order in which they are written. -/
def comparison (lhs : Item) (operator : String) (rhs : Item) : Assembly Marker :=
  match Comparator.ofText? operator with
  | none => reject (.unknownComparator lhs operator rhs)
  | some comparator =>
    match lhs, rhs with
    | .name key, .value text => pure (.comparison ⟨key, comparator, text⟩)
    | .value text, .name key =>
      if comparator.isMembership then pure (.comparison ⟨text, comparator, key⟩)
      else reject (.badOperands lhs operator rhs)
    | _, _ => reject (.badOperands lhs operator rhs)

/-- Adds an operand to the conjunction that is being read, if there is one. -/
def joinRun (run : Option Marker) (operand : Marker) : Marker :=
  match run with
  | some left => .join .conj left operand
  | none => operand

/-- Adds a complete conjunction to the disjunction of those before it, if there are any. -/
def joinSum (sum : Option Marker) (run : Marker) : Marker :=
  match sum with
  | some left => .join .disj left run
  | none => run

mutual

/-- The marker of one operand, inside `depth` groups. -/
def ofItem (depth : Nat) : Item → Assembly Marker
  | .group items =>
    if depth ≥ maxGroupDepth then reject .nestedTooDeep
    else if items.length > 3 then chainOperand (depth + 1) items none none items
    else ofShort (depth + 1) items
  | item => reject (.notOperand item)

/-- The marker of a sequence of at most three items, inside `depth` groups. -/
def ofShort (depth : Nat) : List Item → Assembly Marker
  | [] => reject .empty
  | [item] => ofItem depth item
  | [left, .keyword op, right] => do
    let l ← ofItem depth left
    let r ← ofItem depth right
    return .join op l r
  | [lhs, .operator operator, rhs] => comparison lhs operator rhs
  | items => reject (.unexpected items)

/-- The marker of the chain `whole`, inside `depth` groups, where an operand has to come next.
`sum` is the disjunction of the complete conjunctions and `run` the conjunction that the operand
continues. -/
def chainOperand (depth : Nat) (whole : List Item) (sum run : Option Marker) :
    List Item → Assembly Marker
  | [] => reject (.missingOperand whole)
  | .keyword _ :: _ => reject (.missingOperand whole)
  | item :: rest => do
    let operand ← ofItem depth item
    chainConnective depth whole sum (joinRun run operand) rest

/-- The marker of the chain `whole`, inside `depth` groups, where a connective or the end has to
come next. -/
def chainConnective (depth : Nat) (whole : List Item) (sum : Option Marker) (run : Marker) :
    List Item → Assembly Marker
  | [] => pure (joinSum sum run)
  | .keyword .conj :: rest => chainOperand depth whole sum (some run) rest
  | .keyword .disj :: rest => chainOperand depth whole (some (joinSum sum run)) none rest
  | _ :: _ => reject (.unexpected whole)

end

/-- The marker of a sequence of items, inside `depth` groups. -/
def ofSequence (depth : Nat) (items : List Item) : Assembly Marker :=
  if items.length > 3 then chainOperand depth items none none items else ofShort depth items

/-- A group is read like the sequence in it, one level deeper. -/
theorem ofItem_group (depth : Nat) (items : List Item) :
    ofItem depth (.group items) =
      if depth ≥ maxGroupDepth then reject .nestedTooDeep else ofSequence (depth + 1) items := by
  rw [ofItem, ofSequence]

end Assembly

namespace Marker

/-- The marker of a sequence of items. -/
def ofItems (items : List Item) : Logged (Except ShapeFault Marker) :=
  (Assembly.ofSequence 0 items).run

/-- The marker of a single item, a comparison or a marker in parentheses. -/
def ofItem (item : Item) : Logged (Except ShapeFault Marker) :=
  (Assembly.ofItem 0 item).run

end Marker

end EnvMarkers
