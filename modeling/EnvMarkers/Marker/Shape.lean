import EnvMarkers.Marker.Item

/-!
# Rejected shapes

The ways in which a sequence of items fails to be a marker, each with the reason and the fragment
that a reader is shown.
-/

namespace EnvMarkers

/-- How many groups may stand around each other in a sequence of items. -/
def maxGroupDepth : Nat := 256

/-- Why a sequence of items is not a marker. -/
inductive ShapeFault where
  /-- The sequence has no items. -/
  | empty
  /-- A connective has no operand on one side. -/
  | missingOperand (items : List Item)
  /-- The sequence has neither the shape of a comparison nor of a chain. -/
  | unexpected (items : List Item)
  /-- An item stands where a comparison or a group has to. -/
  | notOperand (item : Item)
  /-- Groups stand around each other too often. -/
  | nestedTooDeep
  /-- An operator text is no comparator. -/
  | unknownComparator (lhs : Item) (operator : String) (rhs : Item)
  /-- The sides of a comparison are not a variable and a value, in an order its comparator
  allows. -/
  | badOperands (lhs : Item) (operator : String) (rhs : Item)
  deriving DecidableEq, Repr, Inhabited

namespace ShapeFault

/-- What is wrong with the sequence. -/
def reason : ShapeFault → String
  | empty => "Empty marker"
  | missingOperand _ => "Boolean operator is missing an operand"
  | unexpected _ => "Unexpected marker shape"
  | notOperand _ => "Expected a comparison or group"
  | nestedTooDeep => "Groups nested too deeply"
  | unknownComparator .. => "Unknown comparator"
  | badOperands .. => "Comparison needs a variable and a quoted value"

/-- The part of the sequence that is at fault. -/
def fragment : ShapeFault → String
  | empty => ""
  | missingOperand items => Item.sequenceText items
  | unexpected items => Item.sequenceText items
  | notOperand item => item.text
  | nestedTooDeep => "more than " ++ toString maxGroupDepth ++ " levels"
  | unknownComparator lhs operator rhs => lhs.text ++ " " ++ operator ++ " " ++ rhs.text
  | badOperands lhs operator rhs => lhs.text ++ " " ++ operator ++ " " ++ rhs.text

/-- The reason and the fragment in one line. -/
def message (f : ShapeFault) : String :=
  f.reason ++ ": " ++ f.fragment

end ShapeFault

end EnvMarkers
