/-!
# Patterns

A pattern is a text and what it matches.  It is compiled once and then asked whether it matches some
part of a text.  What a text stands for is the business of whatever compiles it, so a pattern may
match any texts whatsoever.
-/

namespace EnvMarkers

/-- A compiled pattern. -/
structure Pattern where
  /-- The text as it was written. -/
  source : String
  /-- Whether the pattern matches some part of a text. -/
  isMatch : String → Bool
  deriving Inhabited

end EnvMarkers
