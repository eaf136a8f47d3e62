import EnvMarkers.Text.Digits
import EnvMarkers.Version.Order

/-!
# Reading versions

A version may be written in many ways: with a `v` in front, with separators and long spellings
around its parts, and in any case.  `VersionPattern.read?` accepts them all, and also a release
that ends in `.*`; `Version.ofText?` accepts those without.  A part whose number is missing has
the number zero, and a number that does not fit 64 bits is refused.
-/

namespace EnvMarkers

/-- A version, or all versions whose release begins with a given one. -/
structure VersionPattern where
  /-- The version that is written. -/
  version : Version
  /-- Whether `.*` follows its release. -/
  wildcard : Bool
  deriving DecidableEq, Repr, Inhabited

namespace VersionPattern

/-- Blanks that may stand around a version. -/
def isAsciiBlank (c : Char) : Bool :=
  c == ' ' || c == '\t' || c == '\n' || c == '\x0c' || c == '\r'

/-- Whether a character may stand between the parts of a version. -/
def isSeparator (c : Char) : Bool :=
  c == '.' || c == '_' || c == '-'

/-- Drops one separator, if there is one. -/
def dropSeparator : List Char → List Char
  | c :: cs => if isSeparator c then cs else c :: cs
  | [] => []

/-- The characters behind a word that is written in any case, if they begin with it. -/
def dropWord? (word : String) (cs : List Char) : Option (List Char) :=
  let n := word.length
  if (cs.take n).map Char.toLower = word.toList then some (cs.drop n) else none

/-- The first of several spellings with which the characters begin: what it stands for, and the
characters behind it. -/
def dropSpelling? {α : Type} (spellings : List (String × α)) (cs : List Char) :
    Option (α × List Char) :=
  spellings.findSome? fun (word, meaning) => (dropWord? word cs).map fun rest => (meaning, rest)

/-- Reads a number, if there is one; fails if it is too large. -/
def number? (cs : List Char) : Option (Option Nat × List Char) :=
  match cs.takeWhile Char.isDigit with
  | [] => some (none, cs)
  | ds =>
    let n := Text.decimalValue ds
    if n ≤ maxVersionNumber then some (some n, cs.dropWhile Char.isDigit) else none

/-- Reads the numbers of a release behind its first one, which is `current` as far as it has been
read; `done` are the complete ones, the latest first.  A dot that no digit follows is left. -/
def releaseNumbers (done : List Nat) (current : Nat) : List Char → List Nat × List Char
  | [] => ((current :: done).reverse, [])
  | '.' :: d :: cs =>
    if d.isDigit then releaseNumbers (current :: done) (Text.digitValue d) cs
    else ((current :: done).reverse, '.' :: d :: cs)
  | d :: cs =>
    if d.isDigit then releaseNumbers done (10 * current + Text.digitValue d) cs
    else ((current :: done).reverse, d :: cs)

/-- Reads the numbers of a release; fails if there is none or one is too large. -/
def release? : List Char → Option (List Nat × List Char)
  | d :: cs =>
    if d.isDigit then
      let (numbers, rest) := releaseNumbers [] (Text.digitValue d) cs
      if numbers.all (· ≤ maxVersionNumber) then some (numbers, rest) else none
    else none
  | [] => none

/-- Reads an epoch, which is zero if none is written. -/
def epoch? (cs : List Char) : Option (Nat × List Char) := do
  match ← number? cs with
  | (some n, '!' :: rest) => some (n, rest)
  | _ => some (0, cs)

/-- The spellings of the kinds of pre-releases.  A spelling comes before those it begins with. -/
def preSpellings : List (String × PreKind) :=
  [("alpha", .alpha), ("beta", .beta), ("preview", .candidate), ("pre", .candidate),
    ("rc", .candidate), ("a", .alpha), ("b", .beta), ("c", .candidate)]

/-- The spellings of a post-release. -/
def postSpellings : List (String × Unit) :=
  [("post", ()), ("rev", ()), ("r", ())]

/-- The spelling of a development release. -/
def devSpellings : List (String × Unit) :=
  [("dev", ())]

/-- Reads a part that is spelled out, with the number behind it: separators may stand before the
spelling and before the number. -/
def spelledPart? {α : Type} (spellings : List (String × α)) (cs : List Char) :
    Option (Option (α × Nat) × List Char) :=
  match dropSpelling? spellings (dropSeparator cs) with
  | none => some (none, cs)
  | some (meaning, rest) => do
    let (n, rest) ← number? (dropSeparator rest)
    some (some (meaning, n.getD 0), rest)

/-- Reads a pre-release, if there is one. -/
def pre? (cs : List Char) : Option (Option PreRelease × List Char) := do
  let (part, rest) ← spelledPart? preSpellings cs
  some (part.map fun (kind, n) => ⟨kind, n⟩, rest)

/-- Reads a post-release, if there is one: a number behind a hyphen, or one that is spelled
out. -/
def post? (cs : List Char) : Option (Option Nat × List Char) := do
  let spelled : Option (Option Nat × List Char) := do
    let (part, rest) ← spelledPart? postSpellings cs
    some (part.map Prod.snd, rest)
  match cs with
  | '-' :: rest =>
    match ← number? rest with
    | (some n, rest) => some (some n, rest)
    | (none, _) => spelled
  | _ => spelled

/-- Reads a development release, if there is one. -/
def dev? (cs : List Char) : Option (Option Nat × List Char) := do
  let (part, rest) ← spelledPart? devSpellings cs
  some (part.map Prod.snd, rest)

/-- Splits characters at the separators among them; `current` is the part that has begun. -/
def splitParts (current : List Char) : List Char → List (List Char)
  | [] => [current.reverse]
  | c :: cs =>
    if isSeparator c then current.reverse :: splitParts [] cs else splitParts (c :: current) cs

/-- The part of a local label that is written by some characters. -/
def labelPart (cs : List Char) : LabelPart :=
  let n := Text.decimalValue cs
  if cs.all Char.isDigit && n ≤ maxVersionNumber then .number n
  else .word (String.ofList (cs.map Char.toLower))

/-- Reads a local label, if there is one: a plus sign and parts of letters and digits with
separators between them. -/
def label? : List Char → Option (List LabelPart × List Char)
  | '+' :: cs =>
    let belongs := fun c : Char => c.isAlphanum || isSeparator c
    let parts := splitParts [] (cs.takeWhile belongs)
    if parts.any List.isEmpty then none else some (parts.map labelPart, cs.dropWhile belongs)
  | cs => some ([], cs)

/-- Reads a version or a release with `.*` behind it, with blanks around the former. -/
def read? (cs : List Char) : Option VersionPattern := do
  let cs := cs.dropWhile isAsciiBlank
  let cs := (dropWord? "v" cs).getD cs
  let (epoch, cs) ← epoch? cs
  let (release, cs) ← release? cs
  if cs = ['.', '*'] then
    return ⟨⟨epoch, release, none, none, none, []⟩, true⟩
  let (pre, cs) ← pre? cs
  let (post, cs) ← post? cs
  let (dev, cs) ← dev? cs
  let (label, cs) ← label? cs
  if cs.all isAsciiBlank then some ⟨⟨epoch, release, pre, post, dev, label⟩, false⟩ else none

end VersionPattern

/-- The version that a text writes. -/
def Version.ofText? (s : String) : Option Version := do
  let pattern ← VersionPattern.read? s.toList
  if pattern.wildcard then none else some pattern.version

end EnvMarkers
