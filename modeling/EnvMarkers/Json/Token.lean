import EnvMarkers.Text.Digits

/-!
# JSON tokens

The tokens of a JSON text and how they are read off its characters, one character at a time.
Strings are decoded while they are read: raw control characters are refused, and an escape for
one half of a surrogate pair is accepted only together with the other half.  Numbers keep their
text.
-/

namespace EnvMarkers

/-- A token of a JSON text. -/
inductive JsonToken where
  /-- `{` -/
  | openBrace
  /-- `}` -/
  | closeBrace
  /-- `[` -/
  | openBracket
  /-- `]` -/
  | closeBracket
  /-- `,` -/
  | comma
  /-- `:` -/
  | colon
  /-- `null` -/
  | null
  /-- `true` or `false` -/
  | bool (b : Bool)
  /-- A number, as it is written. -/
  | number (text : String)
  /-- A string, decoded. -/
  | string (s : String)
  deriving DecidableEq, Repr, Inhabited

namespace JsonToken

/-- White space between tokens. -/
def isSpace (c : Char) : Bool :=
  c == ' ' || c == '\t' || c == '\n' || c == '\r'

/-! ### Numbers -/

/-- Whether a character may occur in a number. -/
def isNumberChar (c : Char) : Bool :=
  c.isDigit || c == '-' || c == '+' || c == '.' || c == 'e' || c == 'E'

/-- Whether characters write an exponent: digits, perhaps with a sign in front. -/
def isExponent (cs : List Char) : Bool :=
  match cs with
  | '+' :: ds => !ds.isEmpty && ds.all Char.isDigit
  | '-' :: ds => !ds.isEmpty && ds.all Char.isDigit
  | ds => !ds.isEmpty && ds.all Char.isDigit

/-- Whether characters may stand behind the fraction of a number. -/
def isExponentPart : List Char → Bool
  | [] => true
  | c :: cs => (c == 'e' || c == 'E') && isExponent cs

/-- Whether characters may stand behind the integer part of a number. -/
def isFractionPart : List Char → Bool
  | '.' :: cs => !(cs.takeWhile Char.isDigit).isEmpty && isExponentPart (cs.dropWhile Char.isDigit)
  | cs => isExponentPart cs

/-- Whether characters write a number: an integer without leading zeros, then perhaps a fraction
and an exponent. -/
def isNumber (cs : List Char) : Bool :=
  let unsigned := match cs with
    | '-' :: cs => cs
    | cs => cs
  match unsigned with
  | '0' :: cs => isFractionPart cs
  | c :: cs => c.isDigit && isFractionPart (cs.dropWhile Char.isDigit)
  | [] => false

/-! ### Strings -/

/-- What the next character of a string is part of. -/
inductive StringState where
  /-- A character by itself. -/
  | plain
  /-- The letter of an escape. -/
  | escape
  /-- The hexadecimal digits of an escape: those read so far, the latest first, and the first
  half of a surrogate pair before them. -/
  | hex (digits : List Char) (high : Option Nat)
  /-- The backslash before the second half of a surrogate pair. -/
  | lowBackslash (high : Nat)
  /-- The letter before the second half of a surrogate pair. -/
  | lowLetter (high : Nat)
  deriving DecidableEq, Repr, Inhabited

/-- The character that a letter behind a backslash stands for. -/
def escapedChar? : Char → Option Char
  | '"' => some '"'
  | '\\' => some '\\'
  | '/' => some '/'
  | 'b' => some '\x08'
  | 'f' => some '\x0c'
  | 'n' => some '\n'
  | 'r' => some '\r'
  | 't' => some '\t'
  | _ => none

/-- Ends an escape of four hexadecimal digits: it is a character, the first half of a pair, or
the second half that completes one. -/
def endHex? (text : String) (n : Nat) (high : Option Nat) : Option (String × StringState) :=
  match high with
  | some high =>
    if 0xDC00 ≤ n ∧ n ≤ 0xDFFF then
      some (text.push (Char.ofNat (0x10000 + (high - 0xD800) * 0x400 + (n - 0xDC00))), .plain)
    else none
  | none =>
    if 0xD800 ≤ n ∧ n ≤ 0xDBFF then some (text, .lowBackslash n)
    else if 0xDC00 ≤ n ∧ n ≤ 0xDFFF then none
    else some (text.push (Char.ofNat n), .plain)

/-- Reads one character of a string other than the quote that ends it. -/
def stringStep? (text : String) (state : StringState) (c : Char) :
    Option (String × StringState) :=
  match state with
  | .plain =>
    if c == '\\' then some (text, .escape)
    else if c.toNat < 0x20 then none
    else some (text.push c, .plain)
  | .escape =>
    if c == 'u' then some (text, .hex [] none)
    else (escapedChar? c).map fun c => (text.push c, .plain)
  | .hex digits high =>
    if (Text.hexDigit? c).isNone then none
    else
      let digits := c :: digits
      if digits.length < 4 then some (text, .hex digits high)
      else endHex? text (Text.hexValue digits.reverse) high
  | .lowBackslash high => if c == '\\' then some (text, .lowLetter high) else none
  | .lowLetter high => if c == 'u' then some (text, .hex [] (some high)) else none

/-! ### The whole text -/

/-- The token that is still growing. -/
inductive Pending where
  /-- None has begun. -/
  | nothing
  /-- A number, as far as it has been read. -/
  | number (text : String)
  /-- A run of letters, as far as it has been read. -/
  | word (text : String)
  /-- A string, as far as it has been decoded. -/
  | string (text : String) (state : StringState)
  deriving DecidableEq, Repr, Inhabited

/-- The state of a reader of tokens. -/
structure Scan where
  /-- The complete tokens, the latest first. -/
  done : List JsonToken
  /-- The token that is still growing. -/
  pending : Pending
  deriving DecidableEq, Repr, Inhabited

namespace Scan

/-- A reader that has seen nothing. -/
def start : Scan := ⟨[], .nothing⟩

/-- Begins a token at a character, behind the complete tokens `done`. -/
def beginAt? (done : List JsonToken) (c : Char) : Option Scan :=
  match c with
  | '{' => some ⟨.openBrace :: done, .nothing⟩
  | '}' => some ⟨.closeBrace :: done, .nothing⟩
  | '[' => some ⟨.openBracket :: done, .nothing⟩
  | ']' => some ⟨.closeBracket :: done, .nothing⟩
  | ',' => some ⟨.comma :: done, .nothing⟩
  | ':' => some ⟨.colon :: done, .nothing⟩
  | '"' => some ⟨done, .string "" .plain⟩
  | c =>
    if isSpace c then some ⟨done, .nothing⟩
    else if c.isDigit || c == '-' then some ⟨done, .number (String.singleton c)⟩
    else if c.isAlpha then some ⟨done, .word (String.singleton c)⟩
    else none

/-- Ends the growing token. -/
def close? (s : Scan) : Option (List JsonToken) :=
  match s.pending with
  | .nothing => some s.done
  | .number text => if isNumber text.toList then some (.number text :: s.done) else none
  | .word "null" => some (.null :: s.done)
  | .word "true" => some (.bool true :: s.done)
  | .word "false" => some (.bool false :: s.done)
  | .word _ => none
  | .string _ _ => none

/-- Reads one character. -/
def step? (s : Scan) (c : Char) : Option Scan :=
  match s.pending with
  | .nothing => beginAt? s.done c
  | .number text =>
    if isNumberChar c then some ⟨s.done, .number (text.push c)⟩
    else s.close? >>= fun done => beginAt? done c
  | .word text =>
    if c.isAlpha then some ⟨s.done, .word (text.push c)⟩
    else s.close? >>= fun done => beginAt? done c
  | .string text state =>
    if c == '"' && state = .plain then some ⟨.string text :: s.done, .nothing⟩
    else (stringStep? text state c).map fun (text, state) => ⟨s.done, .string text state⟩

end Scan

/-- The tokens of a text, in the order in which they stand there. -/
def scan? (cs : List Char) : Option (List JsonToken) := do
  let last ← cs.foldlM Scan.step? Scan.start
  let done ← last.close?
  return done.reverse

end JsonToken

end EnvMarkers
