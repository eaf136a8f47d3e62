import EnvMarkers.Pattern.Expr
import EnvMarkers.Pattern.Options
import EnvMarkers.Text.Digits

/-!
# Escapes in patterns

What a backslash and the characters behind it stand for, and how text is read where white space
and comments are ignored.

Of the properties behind `\p` only those of `propertyClass?` and the values of general categories
and scripts (`propertyExpression?`) are known.  Left out are all other binary properties, such as
`Emoji`, `Math` and `XID_Start`, script extensions (`scx`), ages, and the ways to break graphemes,
words and sentences; a pattern that asks for one of these is refused.
-/

namespace EnvMarkers.PatternText

/-- Drops white space and comments, which go from `#` to the end of the line. -/
def dropIgnored (inComment : Bool) : List Char → List Char
  | [] => []
  | c :: cs =>
    if inComment then dropIgnored (c != '\n') cs
    else if Text.isBlank c then dropIgnored false cs
    else if c == '#' then dropIgnored true cs
    else c :: cs

/-- Drops white space and comments if the options say so. -/
def skip (o : PatternOptions) (cs : List Char) : List Char :=
  if o.verbose then dropIgnored false cs else cs

/-- Takes up to a number of characters that pass a test, and what may be ignored behind each of
them. -/
def takeRun (o : PatternOptions) (test : Char → Bool) : Nat → List Char → List Char × List Char
  | 0, cs => ([], cs)
  | _, [] => ([], [])
  | k + 1, c :: cs =>
    if test c then
      let (run, rest) := takeRun o test k (skip o cs)
      (c :: run, rest)
    else ([], c :: cs)

/-- Takes all characters at the front that pass a test, and what may be ignored behind each. -/
def takeAll (o : PatternOptions) (test : Char → Bool) (cs : List Char) :
    List Char × List Char :=
  takeRun o test cs.length cs

/-- The character with a given number, if there is one. -/
def charOfNat? (n : Nat) : Option Char :=
  if n.isValidChar then some (Char.ofNat n) else none

/-- What a single character or an escape stands for. -/
inductive Primitive where
  /-- A character; `byte` marks those that are written by two hexadecimal digits. -/
  | char (c : Char) (byte : Bool)
  /-- A class of characters. -/
  | set (c : CharClass)
  /-- A condition on the position. -/
  | assertion (a : Assertion)
  deriving Repr, Inhabited

/-- A class whose case is disregarded if the options say so. -/
def foldClass (o : PatternOptions) (c : CharClass) : CharClass :=
  if !o.ignoreCase then c else if o.unicode then .anyCase c else .anyAsciiCase c

/-- What is not in a class.  Classes of ASCII alone have no complement, since it could hold parts
of characters. -/
def complement? (o : PatternOptions) (c : CharClass) : Option CharClass :=
  if o.unicode then some (.complement c) else none

/-- A class as it stands in a pattern: its case disregarded if the options say so, then its
complement taken if it is negated. -/
def finishClass? (o : PatternOptions) (negated : Bool) (c : CharClass) : Option CharClass :=
  if negated then complement? o (foldClass o c) else some (foldClass o c)

/-- The class of a character by itself. -/
def literalClass? (o : PatternOptions) (c : Char) (byte : Bool) : Option CharClass :=
  if o.unicode then some (foldClass o (.single c))
  else if byte && c.toNat > 0x7F then none
  else if c.toNat > 0x7F then some (.single c)
  else some (foldClass o (.single c))

/-- The class that `\d`, `\s` or `\w` stands for; capital letters stand for the complements. -/
def shorthand? (o : PatternOptions) : Char → Option (Option CharClass)
  | 'd' => some (some digit)
  | 's' => some (some blank)
  | 'w' => some (some word)
  | 'D' => some (complement? o digit)
  | 'S' => some (complement? o blank)
  | 'W' => some (complement? o word)
  | _ => none
where
  digit := if o.unicode then .having .digit else CharClass.asciiDigit
  blank := if o.unicode then .having .blank else CharClass.asciiSpace
  word := if o.unicode then .having .word else CharClass.asciiWord

/-- The character that a letter behind a backslash stands for. -/
def controlEscape? : Char → Option Char
  | 'a' => some '\x07'
  | 'f' => some '\x0c'
  | 't' => some '\t'
  | 'n' => some '\n'
  | 'r' => some '\r'
  | 'v' => some '\x0b'
  | _ => none

/-- Whether a backslash takes the meaning away from a character: all of ASCII can be escaped but
letters, digits and angle brackets. -/
def isEscapable (c : Char) : Bool :=
  c.toNat < 0x80 && !c.isAlphanum && c != '<' && c != '>'

/-- The character that hexadecimal digits stand for, after a letter that says how many there are
to be without braces. -/
def hexEscape? (o : PatternOptions) (digits : Nat) (cs : List Char) :
    Option (Char × List Char) :=
  let isHex := fun c => (Text.hexDigit? c).isSome
  match skip o cs with
  | '\x7b' :: cs =>
    match takeAll o isHex (skip o cs) with
    | ([], _) => none
    | (ds, '\x7d' :: rest) => (charOfNat? (Text.hexValue ds)).map fun c => (c, skip o rest)
    | _ => none
  | cs =>
    let (ds, rest) := takeRun o isHex digits cs
    if ds.length = digits then (charOfNat? (Text.hexValue ds)).map fun c => (c, rest) else none

/-- A name in small letters, without the spaces, hyphens and underscores in it, and without `is`
in front.  The letter `c` by itself is another name than `isc`. -/
def looseName (cs : List Char) : String :=
  let letters (cs : List Char) : List Char :=
    (cs.filter fun c => c.toNat < 0x80 && !(c == ' ' || c == '-' || c == '_')).map Char.toLower
  match (cs.take 2).map Char.toLower, letters (cs.drop 2) with
  | ['i', 's'], ['c'] => "isc"
  | ['i', 's'], rest => String.ofList rest
  | _, _ => String.ofList (letters cs)

/-- The class that the name of a general category stands for. -/
def categoryClass? (name : List Char) : Option CharClass :=
  match looseName name with
  | "ascii" => some (.range '\x00' '\x7f')
  | name => (Text.Category.ofName? name).map fun gs => .having (.category gs)

/-- The class that the name of a script stands for. -/
def scriptClass? (name : List Char) : Option CharClass :=
  (Text.Script.ofName? (looseName name)).map fun s => .having (.script s)

/-- The class that the name of a property stands for: alphabetic, blank, lowercase or uppercase
characters, a general category or else a script.  Other properties are not known. -/
def propertyClass? (name : List Char) : Option CharClass :=
  match looseName name with
  | "alphabetic" | "alpha" => some (.having .alphabetic)
  | "whitespace" | "wspace" | "space" => some (.having .blank)
  | "lowercase" | "lower" => some (.having .lowercase)
  | "uppercase" | "upper" => some (.having .uppercase)
  | _ => (categoryClass? name).orElse fun _ => scriptClass? name

/-- The class that a property expression stands for: a name, or a property and its value with
`=`, `:` or `!=` between them.  Only general categories and scripts have values. -/
def propertyExpression? (o : PatternOptions) (negated : Bool) (cs : List Char) :
    Option CharClass := do
  let ofValue (property value : List Char) : Option CharClass :=
    if looseName property ∈ ["gc", "generalcategory"] then categoryClass? value
    else if looseName property ∈ ["sc", "script"] then scriptClass? value
    else none
  if !o.unicode then none
  else match cs.span (fun c => c != '!' && c != ':' && c != '=') with
    | (property, '!' :: '=' :: value) =>
      finishClass? o (!negated) (← ofValue property value)
    | (property, ':' :: value) => finishClass? o negated (← ofValue property value)
    | (property, '=' :: value) => finishClass? o negated (← ofValue property value)
    | _ => finishClass? o negated (← propertyClass? cs)

/-- The class of `\p` and `\P`: one letter, or a property expression in braces. -/
def propertyEscape? (o : PatternOptions) (negated : Bool) (cs : List Char) :
    Option (CharClass × List Char) :=
  match skip o cs with
  | [] => none
  | '\x7b' :: cs =>
    match takeAll o (· != '\x7d') (skip o cs) with
    | (name, _ :: rest) => (propertyExpression? o negated name).map fun c => (c, rest)
    | (_, []) => none
  | c :: cs =>
    if c == '\\' then none
    else (propertyExpression? o negated [c]).map fun c => (c, skip o cs)

/-- The assertion that `\b` stands for: a word boundary, or the kind of boundary that is named in
braces.  Braces that begin with no letter belong to a repetition instead. -/
def boundaryEscape? (o : PatternOptions) (cs : List Char) : Option (Assertion × List Char) :=
  let ascii := !o.unicode
  match cs with
  | '\x7b' :: inner =>
    let isNameChar := fun c : Char => c.isAlpha || c == '-'
    match takeAll o isNameChar (skip o inner) with
    | ([], []) => none
    | ([], _) => some (.wordBoundary ascii, cs)
    | (name, '\x7d' :: rest) =>
      match String.ofList name with
      | "start" => some (.wordStart ascii, rest)
      | "end" => some (.wordEnd ascii, rest)
      | "start-half" => some (.wordStartHalf ascii, rest)
      | "end-half" => some (.wordEndHalf ascii, rest)
      | _ => none
    | _ => none
  | _ => some (.wordBoundary ascii, cs)

/-- Reads what follows a backslash. -/
def escape? (o : PatternOptions) : List Char → Option (Primitive × List Char)
  | [] => none
  | 'x' :: cs => do
    let (c, rest) ← hexEscape? o 2 cs
    some (.char c ((skip o cs).head? != some '\x7b'), rest)
  | 'u' :: cs => (hexEscape? o 4 cs).map fun (c, rest) => (.char c false, rest)
  | 'U' :: cs => (hexEscape? o 8 cs).map fun (c, rest) => (.char c false, rest)
  | 'p' :: cs => (propertyEscape? o false cs).map fun (c, rest) => (.set c, rest)
  | 'P' :: cs => (propertyEscape? o true cs).map fun (c, rest) => (.set c, rest)
  | 'A' :: cs => some (.assertion .textStart, cs)
  | 'z' :: cs => some (.assertion .textEnd, cs)
  | 'b' :: cs => (boundaryEscape? o cs).map fun (a, rest) => (.assertion a, rest)
  | 'B' :: cs => some (.assertion (.noWordBoundary (!o.unicode)), cs)
  | '<' :: cs => some (.assertion (.wordStart (!o.unicode)), cs)
  | '>' :: cs => some (.assertion (.wordEnd (!o.unicode)), cs)
  | c :: cs =>
    match shorthand? o c, controlEscape? c with
    | some set, _ => set.map fun s => (.set s, cs)
    | none, some c => some (.char c false, cs)
    | none, none => if isEscapable c then some (.char c false, cs) else none

end EnvMarkers.PatternText
