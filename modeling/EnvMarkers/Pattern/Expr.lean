import EnvMarkers.Pattern.CharClass

/-!
# Pattern expressions

The tree of a pattern: single characters, assertions about a position, sequences, choices and
repetitions.
-/

namespace EnvMarkers

/-- A condition on a position in a text.  Words are runs of word characters, of ASCII alone or of
all scripts. -/
inductive Assertion where
  /-- The text begins here. -/
  | textStart
  /-- The text ends here. -/
  | textEnd
  /-- A line begins here; `cr` says whether carriage returns end lines, too. -/
  | lineStart (cr : Bool)
  /-- A line ends here. -/
  | lineEnd (cr : Bool)
  /-- A word begins or ends here. -/
  | wordBoundary (ascii : Bool)
  /-- No word begins or ends here. -/
  | noWordBoundary (ascii : Bool)
  /-- A word begins here. -/
  | wordStart (ascii : Bool)
  /-- A word ends here. -/
  | wordEnd (ascii : Bool)
  /-- No word goes on from before. -/
  | wordStartHalf (ascii : Bool)
  /-- No word goes on behind. -/
  | wordEndHalf (ascii : Bool)
  deriving DecidableEq, Repr, Inhabited

namespace Assertion

/-- Whether there is a character and it belongs to words. -/
def inWord (ascii : Bool) (c : Option Char) : Bool :=
  c.any fun c => if ascii then CharClass.asciiWord.contains c else Text.isWordChar c

/-- Whether an assertion holds between the character before a position and the one behind it;
either is missing at an end of the text. -/
def holds (a : Assertion) (before after : Option Char) : Bool :=
  match a with
  | textStart => before.isNone
  | textEnd => after.isNone
  | lineStart cr =>
    before.all (· == '\n') || (cr && before == some '\r' && after != some '\n')
  | lineEnd cr =>
    if cr then
      after.all (· == '\r') || (after == some '\n' && before != some '\r')
    else after.all (· == '\n')
  | wordBoundary ascii => inWord ascii before != inWord ascii after
  | noWordBoundary ascii => inWord ascii before == inWord ascii after
  | wordStart ascii => !inWord ascii before && inWord ascii after
  | wordEnd ascii => inWord ascii before && !inWord ascii after
  | wordStartHalf ascii => !inWord ascii before
  | wordEndHalf ascii => !inWord ascii after

end Assertion

/-- A pattern expression. -/
inductive Expr where
  /-- Nothing: matches everywhere and takes no character. -/
  | empty
  /-- One character of a class. -/
  | one (c : CharClass)
  /-- A condition on the position; takes no character. -/
  | assertion (a : Assertion)
  /-- Two expressions one after the other. -/
  | sequence (a b : Expr)
  /-- One of two expressions. -/
  | choice (a b : Expr)
  /-- An expression at least `least` times, and at most `most` times if there is a bound. -/
  | repeated (a : Expr) (least : Nat) (most : Option Nat)
  deriving DecidableEq, Repr, Inhabited

namespace Expr

/-- The number of elementary steps of an expression whose repetitions are written out. -/
def size : Expr → Nat
  | empty => 0
  | one c => c.size
  | assertion _ => 1
  | sequence a b => a.size + b.size
  | choice a b => a.size + b.size + 1
  | repeated a least none => (max least 1) * a.size + 1
  | repeated a least (some most) => least * a.size + (most - least) * (a.size + 1)

end Expr

end EnvMarkers
