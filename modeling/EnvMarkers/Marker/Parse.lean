import EnvMarkers.Marker.Assembly
import EnvMarkers.Marker.Grouping

/-!
# Reading markers

A marker text is read in three stages: its lexemes, the items they group to, and the tree the
items assemble to.  `MarkerFault` is what can go wrong in any of them, `MarkerFault.message` its
wording.
-/

namespace EnvMarkers

/-- The wording of a fault in the text `marker`. -/
def TextFault.message (marker : String) : TextFault → String
  | .unclosedQuote => "Unclosed quote in: " ++ marker
  | .invalidOperator symbol => "Invalid operator '" ++ symbol ++ "' in: " ++ marker
  | .unexpectedCharacter c =>
    "Unexpected character '" ++ String.singleton c ++ "' in: " ++ marker
  | .expectedComparison => "Expected a comparison, found end of marker"
  | .nestedTooDeep =>
    "Parentheses nested deeper than " ++ toString maxParenDepth ++ " levels"
  | .unclosedParen => "Unbalanced parentheses"
  | .unopenedParen => "Unbalanced parentheses in: " ++ marker
  | .trailing found => "Unexpected trailing token '" ++ found.text ++ "' in: " ++ marker
  | .expectedComparator after none => "Expected a comparator after '" ++ after.text ++ "'"
  | .expectedComparator after (some found) =>
    "Expected a comparator after '" ++ after.text ++ "', found '" ++ found.text ++ "'"
  | .expectedIn => "Expected 'in' after 'not'"
  | .missingValue after operator =>
    "Missing value after '" ++ after.text ++ " " ++ operator ++ "'"
  | .expectedOperand found =>
    "Expected a variable or quoted value, found '" ++ found.text ++ "'"
  | .unquotedValue word => "Unquoted value: " ++ word
  | .unknownVariable word => "Unknown environment marker: " ++ word

/-- Why something is not a marker. -/
inductive MarkerFault where
  /-- The text is empty or white space throughout. -/
  | empty
  /-- The text is not a sequence of comparisons. -/
  | text (fault : TextFault) (marker : String)
  /-- The items do not make up a marker. -/
  | shape (fault : ShapeFault)
  /-- A comparison is given with an operator that is no comparator. -/
  | unknownComparator (operator : String)
  deriving DecidableEq, Repr, Inhabited

namespace MarkerFault

/-- The wording of a fault. -/
def message : MarkerFault → String
  | empty => "Empty marker"
  | text fault marker => fault.message marker
  | shape fault => fault.message
  | unknownComparator operator => "Unknown comparator: " ++ operator

end MarkerFault

/-- The comparator with a given written form. -/
def Comparator.ofText (s : String) : Except MarkerFault Comparator :=
  match Comparator.ofText? s with
  | some c => .ok c
  | none => .error (.unknownComparator s)

/-- The items of a marker text.  White space at its ends is no part of it, and messages show it
without. -/
def Item.ofText (marker : String) : Except MarkerFault (List Item) :=
  let cs := Text.trimChars marker.toList
  if cs.isEmpty then .error .empty
  else (Lexeme.scan cs >>= Item.ofLexemes).mapError fun fault => .text fault (String.ofList cs)

/-- The marker that a text writes. -/
def Marker.parse (marker : String) : Logged (Except MarkerFault Marker) :=
  match Item.ofText marker with
  | .error fault => pure (.error fault)
  | .ok items => (·.mapError .shape) <$> Marker.ofItems items

end EnvMarkers
