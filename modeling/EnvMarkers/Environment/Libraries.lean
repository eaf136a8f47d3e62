import EnvMarkers.Pattern.Basic
import EnvMarkers.Pattern.Options
import EnvMarkers.Version.Basic

/-!
# Libraries

The languages of patterns, of versions and of JSON belong to libraries.  Each of these accepts a
text or refuses it with a reason in words of its own, and gives the same answer each time
(`Libraries`).  Declared environments are read and compiled with any libraries.
-/

namespace EnvMarkers

/-- The libraries that declared environments are read and compiled with. -/
structure Libraries where
  /-- The pattern that a text writes under some options, or why it writes none. -/
  pattern : String → PatternOptions → Except String Pattern
  /-- The version that a text writes, or why it writes none. -/
  version : String → Except String Version
  /-- What is said of a text that does not declare an environment. -/
  complaint : String → String

end EnvMarkers
