import EnvMarkers.Marker.Variable
import EnvMarkers.Text.Blank

/-!
# Lexemes

The words, quoted texts, operators and parentheses of a marker text, and how they are read off
its characters.  The reader (`Lexeme.scan`) takes one character at a time: a `Scan` holds the
lexemes that are complete and the one that is still growing, so a word or an operator ends only
at the first character that cannot belong to it.
-/

namespace EnvMarkers

/-- The smallest meaningful part of a marker text. -/
inductive Lexeme where
  /-- A run of letters, digits, underscores and dots. -/
  | word (text : String)
  /-- A text between two equal quotes, stored without them. -/
  | quoted (text : String)
  /-- One of the operators written in punctuation. -/
  | symbol (text : String)
  /-- `(` -/
  | openParen
  /-- `)` -/
  | closeParen
  deriving DecidableEq, Repr, Inhabited

namespace Lexeme

/-- How a lexeme is shown to a reader. -/
def text : Lexeme → String
  | word w => w
  | symbol s => s
  | quoted q => "\"" ++ q ++ "\""
  | openParen => "("
  | closeParen => ")"

/-- The operators written in punctuation. -/
def symbols : List String :=
  ["===", "==", "!=", "~=", ">=", "<=", ">", "<"]

/-- Whether a character belongs to an operator. -/
def isSymbolChar (c : Char) : Bool :=
  c == '=' || c == '!' || c == '<' || c == '>' || c == '~'

/-- Whether a character belongs to a word. -/
def isWordChar (c : Char) : Bool :=
  c.isAlphanum || c == '_' || c == '.'

end Lexeme

/-- Why a text has no reading as a sequence of comparisons. -/
inductive TextFault where
  /-- A quote has no partner. -/
  | unclosedQuote
  /-- A run of operator characters is no operator. -/
  | invalidOperator (symbol : String)
  /-- A character belongs to no lexeme. -/
  | unexpectedCharacter (c : Char)
  /-- The text ends where a comparison has to begin. -/
  | expectedComparison
  /-- Too many parentheses are open at once. -/
  | nestedTooDeep
  /-- A parenthesis is not closed where its marker ends. -/
  | unclosedParen
  /-- A parenthesis is closed that was never opened. -/
  | unopenedParen
  /-- A lexeme follows a complete marker. -/
  | trailing (found : Lexeme)
  /-- No comparator follows the left side of a comparison. -/
  | expectedComparator (after : Lexeme) (found : Option Lexeme)
  /-- `not` is not followed by `in`. -/
  | expectedIn
  /-- The text ends behind a comparator. -/
  | missingValue (after : Lexeme) (operator : String)
  /-- A side of a comparison is neither a word nor a quoted text. -/
  | expectedOperand (found : Lexeme)
  /-- A word that begins with a digit stands where a quoted text has to. -/
  | unquotedValue (word : String)
  /-- A word is not the name of a variable. -/
  | unknownVariable (word : String)
  deriving DecidableEq, Repr, Inhabited

namespace Lexeme

/-- The lexeme that is still growing. -/
inductive Pending where
  /-- None has begun. -/
  | nothing
  /-- A word, as far as it has been read. -/
  | word (text : String)
  /-- An operator, as far as it has been read. -/
  | symbol (text : String)
  /-- A quoted text, as far as it has been read, and the quote that will close it. -/
  | quoted (mark : Char) (text : String)
  deriving DecidableEq, Repr, Inhabited

/-- The state of a reader of lexemes. -/
structure Scan where
  /-- The complete lexemes, the latest first. -/
  done : List Lexeme
  /-- The lexeme that is still growing. -/
  pending : Pending
  deriving DecidableEq, Repr, Inhabited

namespace Scan

/-- A reader that has seen nothing. -/
def start : Scan := ⟨[], .nothing⟩

/-- Begins a lexeme at a character, behind the complete lexemes `done`. -/
def beginAt (done : List Lexeme) (c : Char) : Except TextFault Scan :=
  if Text.isBlank c then .ok ⟨done, .nothing⟩
  else if c == '(' then .ok ⟨.openParen :: done, .nothing⟩
  else if c == ')' then .ok ⟨.closeParen :: done, .nothing⟩
  else if c == '\'' || c == '"' then .ok ⟨done, .quoted c ""⟩
  else if isSymbolChar c then .ok ⟨done, .symbol (String.singleton c)⟩
  else if isWordChar c then .ok ⟨done, .word (String.singleton c)⟩
  else .error (.unexpectedCharacter c)

/-- Ends the growing lexeme. -/
def close (s : Scan) : Except TextFault (List Lexeme) :=
  match s.pending with
  | .nothing => .ok s.done
  | .word text => .ok (.word text :: s.done)
  | .symbol text =>
    if text ∈ symbols then .ok (.symbol text :: s.done) else .error (.invalidOperator text)
  | .quoted _ _ => .error .unclosedQuote

/-- Reads one character: it extends the growing lexeme, closes it, or ends it and begins the
next. -/
def step (s : Scan) (c : Char) : Except TextFault Scan :=
  match s.pending with
  | .quoted mark text =>
    if c == mark then .ok ⟨.quoted text :: s.done, .nothing⟩
    else .ok ⟨s.done, .quoted mark (text.push c)⟩
  | .word text =>
    if isWordChar c then .ok ⟨s.done, .word (text.push c)⟩
    else s.close >>= fun done => beginAt done c
  | .symbol text =>
    if isSymbolChar c then .ok ⟨s.done, .symbol (text.push c)⟩
    else s.close >>= fun done => beginAt done c
  | .nothing => beginAt s.done c

end Scan

/-- The lexemes of a text, in the order in which they stand there. -/
def scan (cs : List Char) : Except TextFault (List Lexeme) := do
  let last ← cs.foldlM Scan.step Scan.start
  let done ← last.close
  return done.reverse

end Lexeme

end EnvMarkers
