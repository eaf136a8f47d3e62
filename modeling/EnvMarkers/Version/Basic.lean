/-!
# Versions

The parts of a version: an epoch, the numbers of the release, a pre-release, a post-release, a
development release and a local label.  `Version.text` writes them in one normal form.
-/

namespace EnvMarkers

/-- The kinds of pre-releases, the earliest first. -/
inductive PreKind where
  /-- Written `a`. -/
  | alpha
  /-- Written `b`. -/
  | beta
  /-- Written `rc`. -/
  | candidate
  deriving DecidableEq, Repr, Inhabited

/-- The normal spelling of a kind of pre-release. -/
def PreKind.text : PreKind → String
  | .alpha => "a"
  | .beta => "b"
  | .candidate => "rc"

/-- A numbered pre-release. -/
structure PreRelease where
  /-- The kind of the pre-release. -/
  kind : PreKind
  /-- Its number. -/
  number : Nat
  deriving DecidableEq, Repr, Inhabited

/-- One part of a local label. -/
inductive LabelPart where
  /-- A part that is a number. -/
  | number (n : Nat)
  /-- Any other part, in lower case. -/
  | word (text : String)
  deriving DecidableEq, Repr, Inhabited

/-- The written form of a part of a local label. -/
def LabelPart.text : LabelPart → String
  | .number n => toString n
  | .word s => s

/-- A version of a distribution. -/
structure Version where
  /-- The epoch, which outweighs everything else. -/
  epoch : Nat
  /-- The numbers of the release, the most significant first. -/
  release : List Nat
  /-- The pre-release, if it is one. -/
  pre : Option PreRelease
  /-- The number of the post-release, if it is one. -/
  post : Option Nat
  /-- The number of the development release, if it is one. -/
  dev : Option Nat
  /-- The local label, empty if there is none. -/
  label : List LabelPart
  deriving DecidableEq, Repr, Inhabited

namespace Version

/-- Whether the version comes before the release it is named for. -/
def isEarly (v : Version) : Bool :=
  v.pre.isSome || v.dev.isSome

/-- The version without its local label. -/
def withoutLabel (v : Version) : Version :=
  { v with label := [] }

/-- The text of one optional part. -/
def partText {α : Type} (part : Option α) (render : α → String) : String :=
  match part with
  | some x => render x
  | none => ""

/-- The normal form of a version. -/
def text (v : Version) : String :=
  (if v.epoch = 0 then "" else toString v.epoch ++ "!") ++
    String.intercalate "." (v.release.map toString) ++
    partText v.pre (fun p => p.kind.text ++ toString p.number) ++
    partText v.post (fun n => ".post" ++ toString n) ++
    partText v.dev (fun n => ".dev" ++ toString n) ++
    if v.label.isEmpty then "" else "+" ++ String.intercalate "." (v.label.map LabelPart.text)

end Version

end EnvMarkers
