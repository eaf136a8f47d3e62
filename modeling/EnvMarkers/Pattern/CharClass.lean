import EnvMarkers.Text.Blank
import EnvMarkers.Text.Category
import EnvMarkers.Text.Folding
import EnvMarkers.Text.Script

/-!
# Classes of characters

What one character of a text may be for a pattern to go on: ranges, properties, and what can be
made of them by complement, union, intersection and difference, and by disregarding case.
-/

namespace EnvMarkers

/-- A property of characters that a pattern may ask for. -/
inductive CharProperty where
  /-- Decimal digits of any script. -/
  | digit
  /-- White space. -/
  | blank
  /-- Characters of words. -/
  | word
  /-- Alphabetic characters. -/
  | alphabetic
  /-- Lowercase characters. -/
  | lowercase
  /-- Uppercase characters. -/
  | uppercase
  /-- The characters of some general categories. -/
  | category (gs : List Text.Category)
  /-- The characters of a script. -/
  | script (s : Text.Script)
  deriving DecidableEq, Repr, Inhabited

namespace CharProperty

/-- Whether a character has a property. -/
def holds : CharProperty → Char → Bool
  | digit, c => Text.isDecimalDigit c
  | blank, c => Text.isBlank c
  | word, c => Text.isWordChar c
  | alphabetic, c => Text.isAlphabetic c
  | lowercase, c => Text.isLowercase c
  | uppercase, c => Text.isUppercase c
  | category gs, c => Text.inCategories gs c
  | script s, c => s.contains c

/-- Roughly the number of runs of code points that have a property. -/
def size : CharProperty → Nat
  | digit => 64
  | blank => 10
  | word | alphabetic => 1500
  | lowercase | uppercase => 400
  | category gs => gs.foldr (fun g n => g.runs.size + n) 0
  | script s => s.runs.size

end CharProperty

/-- How two classes are combined inside brackets. -/
inductive SetOperation where
  /-- `&&`: what is in both classes. -/
  | intersection
  /-- `--`: what is in the first class only. -/
  | difference
  /-- `~~`: what is in exactly one of the classes. -/
  | symmetricDifference
  deriving DecidableEq, Repr, Inhabited

/-- A class of characters. -/
inductive CharClass where
  /-- No character. -/
  | nothing
  /-- The characters from `first` to `last`. -/
  | range (first last : Char)
  /-- The characters with a property. -/
  | having (p : CharProperty)
  /-- The characters of either of two classes. -/
  | union (a b : CharClass)
  /-- The characters that an operation leaves of two classes. -/
  | combined (op : SetOperation) (a b : CharClass)
  /-- The characters that are not in a class. -/
  | complement (a : CharClass)
  /-- The characters that differ from one of a class in case only. -/
  | anyCase (a : CharClass)
  /-- The same, where only the case of ASCII letters is disregarded. -/
  | anyAsciiCase (a : CharClass)
  deriving DecidableEq, Repr, Inhabited

namespace CharClass

/-- Whether a character is in a class. -/
def contains : CharClass → Char → Bool
  | nothing, _ => false
  | range first last, c => first ≤ c && c ≤ last
  | having p, c => p.holds c
  | union a b, c => a.contains c || b.contains c
  | combined .intersection a b, c => a.contains c && b.contains c
  | combined .difference a b, c => a.contains c && !b.contains c
  | combined .symmetricDifference a b, c => a.contains c != b.contains c
  | complement a, c => !a.contains c
  | anyCase a, c => (Text.caseVariants c).any a.contains
  | anyAsciiCase a, c => a.contains c || a.contains c.toLower || a.contains c.toUpper

/-- Roughly the number of steps it takes to tell the characters of a class from others; those
behind ASCII take several. -/
def size : CharClass → Nat
  | nothing => 1
  | range first last =>
    if last.toNat < 0x80 then 1 else if first = last then first.utf8Size else 8
  | having p => p.size
  | union a b => a.size + b.size
  | combined _ a b => a.size + b.size
  | complement a => a.size + 8
  | anyCase a => 2 * a.size
  | anyAsciiCase a => 2 * a.size

/-- A single character. -/
def single (c : Char) : CharClass := range c c

/-- The union of several ranges. -/
def ranges (rs : List (Char × Char)) : CharClass :=
  rs.foldr (fun (first, last) a => union (range first last) a) nothing

/-- The ASCII digits. -/
def asciiDigit : CharClass := range '0' '9'

/-- The ASCII letters. -/
def asciiLetter : CharClass := ranges [('A', 'Z'), ('a', 'z')]

/-- The ASCII letters and digits. -/
def asciiAlphanumeric : CharClass := union asciiDigit asciiLetter

/-- The ASCII characters of words. -/
def asciiWord : CharClass := union asciiAlphanumeric (single '_')

/-- The ASCII white space. -/
def asciiSpace : CharClass := ranges [('\t', '\r'), (' ', ' ')]

/-- The classes of ASCII characters that have a name. -/
def asciiByName? : String → Option CharClass
  | "alnum" => some asciiAlphanumeric
  | "alpha" => some asciiLetter
  | "ascii" => some (range '\x00' '\x7f')
  | "blank" => some (ranges [('\t', '\t'), (' ', ' ')])
  | "cntrl" => some (ranges [('\x00', '\x1f'), ('\x7f', '\x7f')])
  | "digit" => some asciiDigit
  | "graph" => some (range '!' '~')
  | "lower" => some (range 'a' 'z')
  | "print" => some (range ' ' '~')
  | "punct" => some (ranges [('!', '/'), (':', '@'), ('[', '\x60'), ('\x7b', '~')])
  | "space" => some asciiSpace
  | "upper" => some (range 'A' 'Z')
  | "word" => some asciiWord
  | "xdigit" => some (ranges [('0', '9'), ('A', 'F'), ('a', 'f')])
  | _ => none

end CharClass

end EnvMarkers
