/-!
# Comparators and connectives

The ten operators that compare a variable with a text, and the two words that join comparisons.
Each has one written form, and the written form determines the operator
(`Comparator.ofText?_text`).
-/

namespace EnvMarkers

/-- An operator between the two sides of a comparison. -/
inductive Comparator where
  /-- `==` -/
  | equal
  /-- `!=` -/
  | notEqual
  /-- `>` -/
  | greater
  /-- `<` -/
  | less
  /-- `>=` -/
  | greaterEqual
  /-- `<=` -/
  | lessEqual
  /-- `===`, equality of the written forms -/
  | identical
  /-- `~=`, the compatible release operator -/
  | compatible
  /-- `in` -/
  | within
  /-- `not in` -/
  | notWithin
  deriving DecidableEq, Repr, Inhabited

namespace Comparator

/-- Every comparator, in the order in which they are listed to a reader. -/
def all : List Comparator :=
  [equal, notEqual, greater, less, greaterEqual, lessEqual, identical, compatible, within,
    notWithin]

/-- The written form of a comparator. -/
def text : Comparator → String
  | equal => "=="
  | notEqual => "!="
  | greater => ">"
  | less => "<"
  | greaterEqual => ">="
  | lessEqual => "<="
  | identical => "==="
  | compatible => "~="
  | within => "in"
  | notWithin => "not in"

/-- The comparator with a given written form. -/
def ofText? (s : String) : Option Comparator :=
  all.find? fun c => c.text == s

/-- Whether the comparator is a membership test; only those may have the variable on the
right. -/
def isMembership : Comparator → Bool
  | within | notWithin => true
  | _ => false

theorem mem_all (c : Comparator) : c ∈ all := by
  cases c <;> decide

theorem ofText?_text (c : Comparator) : ofText? c.text = some c := by
  cases c <;> decide

theorem text_injective {c d : Comparator} (h : c.text = d.text) : c = d := by
  have := ofText?_text c
  rw [h, ofText?_text d] at this
  exact (Option.some.inj this).symm

/-- A text is read as a comparator exactly when it is that comparator's written form. -/
theorem ofText?_eq_some {s : String} {c : Comparator} : ofText? s = some c ↔ c.text = s := by
  constructor
  · intro h
    simpa using List.find?_some h
  · rintro rfl
    exact ofText?_text c

end Comparator

/-- A word that joins two markers. -/
inductive Connective where
  /-- Both sides have to hold. -/
  | conj
  /-- One side has to hold. -/
  | disj
  deriving DecidableEq, Repr, Inhabited

namespace Connective

/-- The written form of a connective. -/
def text : Connective → String
  | conj => "and"
  | disj => "or"

end Connective

end EnvMarkers
