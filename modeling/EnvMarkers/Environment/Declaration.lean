import EnvMarkers.Environment.Basic
import EnvMarkers.Environment.Libraries
import EnvMarkers.Json.Basic

/-!
# Declared environments

An environment as it is written down: a JSON object whose members give each name one candidate or
a list of candidates.  A candidate is a string, an object `{"pattern": …, "flags": …}` or an
object `{"version": …}`; the members of such an object may also be given as an array, in this
order.

A value is taken as one candidate if it can be, and as a list of candidates only otherwise.  So
`["x"]` is one candidate, the pattern `x`, while `["x", "y"]` is a list of two strings.

Patterns and versions are compiled by libraries, which may refuse them (`CandidateDecl.compile`).
-/

namespace EnvMarkers

/-- A candidate as it is written down. -/
inductive CandidateDecl where
  /-- A text. -/
  | exact (text : String)
  /-- A pattern and the number that names its options. -/
  | pattern (source : String) (flags : UInt32)
  /-- The text of a version. -/
  | version (text : String)
  deriving DecidableEq, Repr, Inhabited

/-- What is written down for one name. -/
inductive BindingDecl where
  /-- A single candidate. -/
  | one (c : CandidateDecl)
  /-- A list of candidates. -/
  | many (cs : List CandidateDecl)
  deriving DecidableEq, Repr, Inhabited

/-- The declared candidates of one name. -/
def BindingDecl.candidates : BindingDecl → List CandidateDecl
  | .one c => [c]
  | .many cs => cs

/-- An environment as it is written down. -/
structure EnvironmentDecl where
  /-- What is declared for each name. -/
  bindings : Std.TreeMap String BindingDecl

/-! ### Reading declarations -/

namespace CandidateDecl

/-- The number that is written by the text of a number: digits alone, up to the largest number of
32 bits. -/
def flagsOfNumber? (text : String) : Option UInt32 :=
  let n := Text.decimalValue text.toList
  if text.toList.all Char.isDigit && n < UInt32.size then some (UInt32.ofNat n) else none

/-- The flags that a value stands for. -/
def flags? : Json → Option UInt32
  | .number text => flagsOfNumber? text
  | _ => none

/-- The string that a value is. -/
def string? : Json → Option String
  | .string s => some s
  | _ => none

/-- Reads a value as a pattern.  Its members may come in any order, but none twice and no
others. -/
def patternOfJson? : Json → Option CandidateDecl
  | .object [("pattern", p)] | .array [p] => do
    return .pattern (← string? p) 0
  | .object [("pattern", p), ("flags", f)] | .object [("flags", f), ("pattern", p)]
  | .array [p, f] => do
    return .pattern (← string? p) (← flags? f)
  | _ => none

/-- Reads a value as a version. -/
def versionOfJson? : Json → Option CandidateDecl
  | .object [("version", v)] | .array [v] => do
    return .version (← string? v)
  | _ => none

/-- Reads a value as a candidate: as a string, else as a pattern, else as a version. -/
def ofJson? (j : Json) : Option CandidateDecl :=
  ((string? j).map exact).orElse fun _ => (patternOfJson? j).orElse fun _ => versionOfJson? j

end CandidateDecl

/-- Reads a value as one candidate, else as a list of candidates. -/
def BindingDecl.ofJson? (j : Json) : Option BindingDecl :=
  ((CandidateDecl.ofJson? j).map .one).orElse fun _ =>
    match j with
    | .array items => (items.mapM CandidateDecl.ofJson?).map .many
    | _ => none

namespace EnvironmentDecl

/-- Reads the members of an object one after another; the last one of a name counts, but every
one has to be readable. -/
def ofMembers? (members : List (String × Json)) : Option EnvironmentDecl := do
  let bindings ← members.foldlM (fun (bindings : Std.TreeMap String BindingDecl) (key, j) => do
    let b ← BindingDecl.ofJson? j
    return bindings.insert key b) ∅
  return ⟨bindings⟩

/-- The declaration that a text writes. -/
def ofText (libs : Libraries) (text : String) : Except EnvironmentFault EnvironmentDecl :=
  match Json.ofText? text with
  | some (.object members) =>
    match ofMembers? members with
    | some decl => .ok decl
    | none => .error (.malformed (libs.complaint text))
  | _ => .error (.malformed (libs.complaint text))

end EnvironmentDecl

/-! ### Compiling declarations -/

/-- Compiles a pattern of the name `key` under the options that a number asks for.  The number is
looked at first. -/
def Pattern.compile (libs : Libraries) (key source : String) (bits : UInt32) :
    Except EnvironmentFault Pattern :=
  if PatternOptions.unsupported bits ≠ 0 then
    .error (.unsupportedOptions (PatternOptions.unsupported bits) key)
  else
    match libs.pattern source (PatternOptions.ofBits bits) with
    | .ok p => .ok p
    | .error reason => .error (.invalidPattern key reason)

/-- Compiles a candidate of the name `key`. -/
def CandidateDecl.compile (libs : Libraries) (key : String) :
    CandidateDecl → Except EnvironmentFault Candidate
  | .exact text => .ok (.exact text)
  | .pattern source flags =>
    match Pattern.compile libs key source flags with
    | .ok p => .ok (.pattern p)
    | .error fault => .error fault
  | .version text =>
    match libs.version text with
    | .ok v => .ok (.version v)
    | .error reason => .error (.invalidVersion key reason)

/-- Compiles the candidates of the name `key`, in order. -/
def BindingDecl.compile (libs : Libraries) (key : String) (b : BindingDecl) :
    Except EnvironmentFault (List Candidate) :=
  b.candidates.mapM (CandidateDecl.compile libs key)

namespace Environment

/-- Compiles declared bindings one after another; the first that cannot be compiled decides the
fault. -/
def compileList (libs : Libraries) (bindings : List (String × BindingDecl)) :
    Except EnvironmentFault Environment :=
  bindings.foldlM (fun env (key, b) => do
    let candidates ← b.compile libs key
    return env.insert key candidates) empty

/-- Compiles a declared environment. -/
def compile (libs : Libraries) (decl : EnvironmentDecl) : Except EnvironmentFault Environment :=
  compileList libs decl.bindings.toList

/-- The environment that a text declares. -/
def ofText (libs : Libraries) (text : String) : Except EnvironmentFault Environment := do
  let decl ← EnvironmentDecl.ofText libs text
  compile libs decl

end Environment

end EnvMarkers
