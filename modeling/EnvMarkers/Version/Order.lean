import EnvMarkers.Version.Basic

/-!
# The order of versions

Versions are ordered by epoch, then by release, then by how early or late they are within their
release, and last by local label.  Releases of different length are compared as if the shorter
one went on with zeros, so `1.0` and `1.0.0` are one version in this order.
-/

namespace EnvMarkers

/-- The largest number a version may be written with.  A version that is no development release
sorts behind all development releases of the same name, as if it had this number. -/
def maxVersionNumber : Nat := UInt64.size - 1

/-- Numbers come after words, numbers by value and words by code point. -/
def LabelPart.compare : LabelPart → LabelPart → Ordering
  | .number m, .number n => Ord.compare m n
  | .number _, .word _ => .gt
  | .word _, .number _ => .lt
  | .word s, .word t => Ord.compare s t

namespace Version

/-- Compares two releases as if the shorter one went on with zeros. -/
def compareRelease : List Nat → List Nat → Ordering
  | [], ns => if ns.all (· == 0) then .eq else .lt
  | ms, [] => if ms.all (· == 0) then .eq else .gt
  | m :: ms, n :: ns => (Ord.compare m n).then (compareRelease ms ns)

/-- Compares two local labels part by part; of two labels that agree as far as they go the
shorter one comes first. -/
def compareLabel : List LabelPart → List LabelPart → Ordering
  | [], [] => .eq
  | [], _ :: _ => .lt
  | _ :: _, [] => .gt
  | p :: ps, q :: qs => (p.compare q).then (compareLabel ps qs)

/-- The place of a version within its release. -/
structure Stage where
  /-- Development releases of the release itself come first, then the pre-releases by kind, the
  release, and its post-releases. -/
  phase : Nat
  /-- The number of the pre-release. -/
  pre : Nat
  /-- The number of the post-release; a version that is none comes first. -/
  post : Option Nat
  /-- The number of the development release. -/
  dev : Nat
  deriving DecidableEq, Repr, Inhabited

/-- The place of a version within its release. -/
def stage (v : Version) : Stage :=
  match v.pre, v.post, v.dev with
  | none, none, some n => ⟨1, 0, none, n⟩
  | some ⟨.alpha, n⟩, post, dev => ⟨2, n, post, dev.getD maxVersionNumber⟩
  | some ⟨.beta, n⟩, post, dev => ⟨3, n, post, dev.getD maxVersionNumber⟩
  | some ⟨.candidate, n⟩, post, dev => ⟨4, n, post, dev.getD maxVersionNumber⟩
  | none, none, none => ⟨5, 0, none, 0⟩
  | none, some n, dev => ⟨6, 0, some n, dev.getD maxVersionNumber⟩

/-- An absent number comes before every number. -/
def compareOptional : Option Nat → Option Nat → Ordering
  | none, none => .eq
  | none, some _ => .lt
  | some _, none => .gt
  | some m, some n => Ord.compare m n

/-- Compares two places within a release. -/
def Stage.compare (s t : Stage) : Ordering :=
  (Ord.compare s.phase t.phase).then <|
    (Ord.compare s.pre t.pre).then <|
      (compareOptional s.post t.post).then (Ord.compare s.dev t.dev)

/-- The order of versions. -/
def compare (v w : Version) : Ordering :=
  (Ord.compare v.epoch w.epoch).then <|
    (compareRelease v.release w.release).then <|
      (v.stage.compare w.stage).then (compareLabel v.label w.label)

/-- Whether two versions are one in the order of versions. -/
def isSame (v w : Version) : Bool :=
  v.compare w == .eq

/-- Whether two versions have the same release, up to zeros at its end. -/
def sameRelease (v w : Version) : Bool :=
  compareRelease v.release w.release == .eq

end Version

end EnvMarkers
