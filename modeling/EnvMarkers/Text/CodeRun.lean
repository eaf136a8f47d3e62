/-!
# Runs of code points

Large classes of characters are given as runs of code points.
-/

namespace EnvMarkers.Text

/-- The code points `first`, `first + step`, … up to `last`. -/
structure CodeRun where
  /-- The first code point of the run. -/
  first : Nat
  /-- The last code point of the run. -/
  last : Nat
  /-- The distance from one code point of the run to the next. -/
  step : Nat
  deriving DecidableEq, Repr, Inhabited

/-- Whether a code point is one of the run. -/
def CodeRun.contains (r : CodeRun) (n : Nat) : Bool :=
  decide (r.first ≤ n ∧ n ≤ r.last ∧ (n - r.first) % r.step = 0)

/-- Whether a character is in one of the runs. -/
def inRuns (runs : Array CodeRun) (c : Char) : Bool :=
  runs.any fun r => r.contains c.toNat

end EnvMarkers.Text
