import EnvMarkers.Pattern.Basic
import EnvMarkers.Version.Specifier

/-!
# Candidates

A candidate is something a variable may stand for: a text, all texts that a pattern matches, or a
version.  Each kind decides the comparators it understands and leaves the others open
(`Candidate.compare`).
-/

namespace EnvMarkers

/-- Something a variable may stand for. -/
inductive Candidate where
  /-- A text, compared character by character. -/
  | exact (text : String)
  /-- Every text that a pattern matches. -/
  | pattern (p : Pattern)
  /-- A version. -/
  | version (v : Version)
  deriving Inhabited

namespace Candidate

/-- The name of the kind of a candidate. -/
def kind : Candidate → String
  | exact _ => "exact"
  | pattern _ => "pattern"
  | version _ => "version"

/-- The written form of a candidate. -/
def text : Candidate → String
  | exact s => s
  | pattern p => p.source
  | version v => v.text

/-- What a text or a pattern says about a comparator: it decides equality and its negation. -/
def decideEquality (comparator : Comparator) (equal : Bool) : Option Bool :=
  match comparator with
  | .equal => some equal
  | .notEqual => some !equal
  | _ => none

/-- Compares a candidate with the text on the right of a comparison; `none` if candidates of its
kind cannot decide the comparison.  A version is compared with the specifier that the comparator
and the text make up together. -/
def compare (candidate : Candidate) (comparator : Comparator) (rhs : String) : Option Bool :=
  match candidate with
  | exact s => decideEquality comparator (s == rhs)
  | pattern p => decideEquality comparator (p.isMatch rhs)
  | version v =>
    (Specifier.read? (comparator.text ++ " " ++ rhs).toList).map fun s => s.contains v

end Candidate

/-- Why there is no environment. -/
inductive EnvironmentFault where
  /-- A pattern asks for options that do not exist. -/
  | unsupportedOptions (bits : UInt32) (key : String)
  /-- A pattern is refused, for a reason that its library gives. -/
  | invalidPattern (key reason : String)
  /-- A version is refused, for a reason that its library gives. -/
  | invalidVersion (key reason : String)
  /-- A text does not declare an environment, for a reason that its reader gives. -/
  | malformed (reason : String)
  deriving DecidableEq, Repr, Inhabited

namespace EnvironmentFault

/-- The wording of a refusal: what is wrong, with which name, and the reason of the library. -/
def refusal (what key reason : String) : String :=
  what ++ " for " ++ key ++ ": " ++ reason

/-- The wording of a fault. -/
def message : EnvironmentFault → String
  | unsupportedOptions bits key =>
    "Unsupported pattern flags 0x" ++ Text.toHex bits.toNat ++ " for " ++ key
  | invalidPattern key reason => refusal "Invalid pattern" key reason
  | invalidVersion key reason => refusal "Invalid version" key reason
  | malformed reason => reason

end EnvironmentFault

end EnvMarkers
