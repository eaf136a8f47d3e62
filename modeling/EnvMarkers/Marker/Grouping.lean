import EnvMarkers.Marker.Item
import EnvMarkers.Marker.Lexeme

/-!
# From lexemes to items

The grammar of markers over lexemes: a marker is one or more atoms with connectives between
them, an atom is a marker in parentheses or an operand, a comparator and an operand.  The reader
(`Item.ofLexemes`) takes one lexeme at a time; a `Grouping` holds the sequence it is in, the
sequences around it, one for each open parenthesis, and what may come next.
-/

namespace EnvMarkers

/-- How many parentheses of a marker may be open at once. -/
def maxParenDepth : Nat := 128

/-- The item a lexeme stands for as a side of a comparison. -/
def Lexeme.operand : Lexeme → Except TextFault Item
  | .quoted text => .ok (.value text)
  | .word w =>
    match Variable.canonical? w with
    | some name => .ok (.name name)
    | none =>
      if w.toList.head?.any Char.isDigit then .error (.unquotedValue w)
      else .error (.unknownVariable w)
  | other => .error (.expectedOperand other)

/-- What the next lexeme has to be.  A comparison that has begun keeps its first lexeme, which
messages show, and the item it stands for. -/
inductive Expected where
  /-- A comparison or an opening parenthesis. -/
  | atom
  /-- A comparator. -/
  | comparator (first : Lexeme) (lhs : Item)
  /-- The second word of `not in`. -/
  | inWord (first : Lexeme) (lhs : Item)
  /-- The right side of a comparison. -/
  | operand (first : Lexeme) (lhs : Item) (operator : String)
  /-- A connective or the end of the sequence. -/
  | connective
  deriving DecidableEq, Repr, Inhabited

/-- The state of a reader of items. -/
structure Grouping where
  /-- The sequences around the open parentheses, the innermost first; each has its latest item
  first. -/
  enclosing : List (List Item)
  /-- The items of the sequence that is being read, the latest first. -/
  current : List Item
  /-- What the next lexeme has to be. -/
  expected : Expected
  deriving DecidableEq, Repr, Inhabited

namespace Grouping

/-- A reader that has seen nothing. -/
def start : Grouping := ⟨[], [], .atom⟩

/-- Reads one lexeme. -/
def step (g : Grouping) (lexeme : Lexeme) : Except TextFault Grouping :=
  match g.expected with
  | .atom =>
    match lexeme with
    | .openParen =>
      if g.enclosing.length ≥ maxParenDepth then .error .nestedTooDeep
      else .ok ⟨g.current :: g.enclosing, [], .atom⟩
    | _ => do
      let lhs ← lexeme.operand
      return { g with expected := .comparator lexeme lhs }
  | .comparator first lhs =>
    match lexeme with
    | .symbol s => .ok { g with expected := .operand first lhs s }
    | .word "in" => .ok { g with expected := .operand first lhs "in" }
    | .word "not" => .ok { g with expected := .inWord first lhs }
    | _ => .error (.expectedComparator first (some lexeme))
  | .inWord first lhs =>
    match lexeme with
    | .word "in" => .ok { g with expected := .operand first lhs "not in" }
    | _ => .error .expectedIn
  | .operand _ lhs operator => do
    let rhs ← lexeme.operand
    return { g with
      current := .group [lhs, .operator operator, rhs] :: g.current, expected := .connective }
  | .connective =>
    match lexeme with
    | .word "and" => .ok { g with current := .keyword .conj :: g.current, expected := .atom }
    | .word "or" => .ok { g with current := .keyword .disj :: g.current, expected := .atom }
    | _ =>
      match g.enclosing, lexeme with
      | outer :: enclosing, .closeParen =>
        .ok ⟨enclosing, .group g.current.reverse :: outer, .connective⟩
      | _ :: _, _ => .error .unclosedParen
      | [], .closeParen => .error .unopenedParen
      | [], _ => .error (.trailing lexeme)

/-- The items that have been read, where the lexemes end. -/
def finish (g : Grouping) : Except TextFault (List Item) :=
  match g.expected with
  | .atom => .error .expectedComparison
  | .comparator first _ => .error (.expectedComparator first none)
  | .inWord _ _ => .error .expectedIn
  | .operand first _ operator => .error (.missingValue first operator)
  | .connective =>
    match g.enclosing with
    | [] => .ok g.current.reverse
    | _ :: _ => .error .unclosedParen

end Grouping

/-- The items of a marker, read off its lexemes. -/
def Item.ofLexemes (lexemes : List Lexeme) : Except TextFault (List Item) := do
  let last ← lexemes.foldlM Grouping.step Grouping.start
  last.finish

end EnvMarkers
