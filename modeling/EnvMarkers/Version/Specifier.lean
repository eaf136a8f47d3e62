import EnvMarkers.Marker.Comparator
import EnvMarkers.Text.Blank
import EnvMarkers.Version.Reading

/-!
# Version specifiers

A specifier is a comparator and a version, or the beginning of a release, that it compares with.
`Specifier.read?` takes the operator and the version out of one text, and `Specifier.contains`
says which versions meet it.
-/

namespace EnvMarkers

/-- A condition on versions. -/
structure Specifier where
  /-- How versions are compared. -/
  comparator : Comparator
  /-- What they are compared with. -/
  pattern : VersionPattern
  deriving DecidableEq, Repr, Inhabited

namespace Specifier

/-- Whether versions can be compared in this way: only equality and its negation take the
beginning of a release, those and identity take a local label, and a compatible release needs a
number to vary. -/
def isAdmissible (s : Specifier) : Bool :=
  let v := s.pattern.version
  match s.comparator with
  | .equal | .notEqual => true
  | .identical => !s.pattern.wildcard
  | .compatible => !s.pattern.wildcard && v.label.isEmpty && 2 ≤ v.release.length
  | .greater | .greaterEqual | .less | .lessEqual => !s.pattern.wildcard && v.label.isEmpty
  | .within | .notWithin => false

/-- Whether a character belongs to the operator of a specifier. -/
def isOperatorChar (c : Char) : Bool :=
  c == '=' || c == '!' || c == '~' || c == '<' || c == '>'

/-- Reads a specifier: its operator is the longest run of operator characters at its beginning,
its version goes on to the next white space, and nothing but white space may follow. -/
def read? (cs : List Char) : Option Specifier := do
  let cs := cs.dropWhile Text.isBlank
  let comparator ← Comparator.ofText? (String.ofList (cs.takeWhile isOperatorChar))
  let cs := (cs.dropWhile isOperatorChar).dropWhile Text.isBlank
  let pattern ← VersionPattern.read? (cs.takeWhile fun c => !Text.isBlank c)
  let specifier : Specifier := ⟨comparator, pattern⟩
  if specifier.isAdmissible && (cs.dropWhile fun c => !Text.isBlank c).all Text.isBlank then
    some specifier
  else none

/-- Whether two lists agree as far as both go. -/
def agree (ms ns : List Nat) : Bool :=
  (ms.zip ns).all fun (m, n) => m == n

/-- Whether `w` is later than the version `v` of a specifier.  A post-release of `v` is not,
unless `v` is a post-release, nor is `v` with a local label. -/
def isLater (v w : Version) : Bool :=
  if v.epoch < w.epoch then true
  else if v.sameRelease w && ((!v.post.isSome && w.post.isSome) || !w.label.isEmpty) then false
  else w.compare v == .gt

/-- Whether `w` is earlier than the version `v` of a specifier.  A pre-release of `v` is not,
unless `v` is a pre-release or a development release. -/
def isEarlier (v w : Version) : Bool :=
  if w.epoch < v.epoch then true
  else if v.sameRelease w && !v.isEarly && w.pre.isSome then false
  else w.compare v == .lt

/-- Whether the release of `w` begins with the release of `v`, as far as both go. -/
def beginsWith (v w : Version) : Bool :=
  v.epoch == w.epoch && agree v.release w.release

/-- Whether a version meets the specifier.  Its local label counts only if the specifier has
one. -/
def contains (s : Specifier) (candidate : Version) : Bool :=
  let v := s.pattern.version
  let w := if v.label.isEmpty then candidate.withoutLabel else candidate
  match s.comparator with
  | .equal => if s.pattern.wildcard then beginsWith v w else w.isSame v
  | .notEqual => !if s.pattern.wildcard then beginsWith v w else w.isSame v
  | .identical => v.text == candidate.text
  | .compatible =>
    v.epoch == w.epoch && agree v.release.dropLast w.release && w.compare v != .lt
  | .greater => isLater v w
  | .greaterEqual => isLater v w || w.compare v != .lt
  | .less => isEarlier v w && !(v.sameRelease w && w.isEarly)
  | .lessEqual => isEarlier v w || w.compare v != .gt
  | .within | .notWithin => false

end Specifier

end EnvMarkers
