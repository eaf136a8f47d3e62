import EnvMarkers.Environment.Candidate
import EnvMarkers.Marker.Parse

/-!
# Faults

Everything that can go wrong, in one type, and the line a reader is shown for it.
-/

namespace EnvMarkers

/-- Why a request has no answer. -/
inductive Fault where
  /-- Something is not a marker. -/
  | marker (fault : MarkerFault)
  /-- A marker is not a truth value although it has to be. -/
  | undecided (m : Marker)
  /-- Something is not an environment. -/
  | environment (fault : EnvironmentFault)
  deriving DecidableEq, Repr, Inhabited

namespace Fault

/-- The line a reader is shown. -/
def message : Fault → String
  | marker fault => "Invalid marker: " ++ fault.message
  | undecided m =>
    "Cannot coerce " ++ m.form ++ " to bool; the marker still depends on unbound variables"
  | environment fault => "Invalid environment: " ++ fault.message

end Fault

/-- The truth value of a marker, which has to be one. -/
def Marker.toBool (m : Marker) : Except Fault Bool :=
  match m.literal? with
  | some b => .ok b
  | none => .error (.undecided m)

end EnvMarkers
