import EnvMarkers.Marker.Comparator

/-!
# Items

The nested reading of a marker text, before it becomes a tree: names, quoted values, operators,
connectives, and groups of those.  A comparison is a group of three items, a marker in
parentheses a group of comparisons and connectives.
-/

namespace EnvMarkers

/-- One member of the nested reading of a marker. -/
inductive Item where
  /-- The name of a variable. -/
  | name (text : String)
  /-- A quoted value, stored without its quotes. -/
  | value (text : String)
  /-- The text of an operator, which need not be one. -/
  | operator (text : String)
  /-- A connective. -/
  | keyword (op : Connective)
  /-- A nested sequence. -/
  | group (items : List Item)
  deriving Repr, Inhabited

namespace Item

/-- The connective that an item is, if it is one. -/
def connective? : Item → Option Connective
  | keyword op => some op
  | _ => none

mutual

/-- The text of an item: values in quotes, groups in parentheses. -/
def text : Item → String
  | name s => s
  | value s => "\"" ++ s ++ "\""
  | operator s => s
  | keyword op => op.text
  | group items => "(" ++ sequenceText items ++ ")"

/-- The texts of a sequence of items, a space between every two. -/
def sequenceText : List Item → String
  | [] => ""
  | [item] => item.text
  | item :: next :: rest => item.text ++ " " ++ sequenceText (next :: rest)

end

/-! ### Equality of items -/

mutual

/-- Whether two items are equal. -/
def beq : Item → Item → Bool
  | name s, name t => s == t
  | value s, value t => s == t
  | operator s, operator t => s == t
  | keyword p, keyword q => p == q
  | group xs, group ys => beqSequence xs ys
  | _, _ => false

/-- Whether two sequences of items are equal. -/
def beqSequence : List Item → List Item → Bool
  | [], [] => true
  | x :: xs, y :: ys => x.beq y && beqSequence xs ys
  | _, _ => false

end

mutual

theorem beq_iff_eq (a b : Item) : a.beq b = true ↔ a = b := by
  cases a <;> cases b <;> simp [beq]
  exact beqSequence_iff_eq _ _

theorem beqSequence_iff_eq (xs ys : List Item) : beqSequence xs ys = true ↔ xs = ys := by
  cases xs with
  | nil => cases ys <;> simp [beqSequence]
  | cons x xs =>
    cases ys with
    | nil => simp [beqSequence]
    | cons y ys => simp [beqSequence, beq_iff_eq x y, beqSequence_iff_eq xs ys]

end

instance : DecidableEq Item := fun a b => decidable_of_iff (a.beq b = true) (beq_iff_eq a b)

end Item

end EnvMarkers
