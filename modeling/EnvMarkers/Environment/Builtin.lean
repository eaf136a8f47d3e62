import EnvMarkers.Environment.Libraries
import EnvMarkers.Pattern.Matching
import EnvMarkers.Pattern.Reading
import EnvMarkers.Version.Reading

/-!
# Libraries to run with

The languages of patterns and versions that this library brings along, for running it and for
examples.  Versions are read as they are everywhere else here.  The language of patterns is that of
linear-time regular expressions, with these limits: of the properties behind `\p` only those of
`PatternText.propertyClass?` are known, the tables of characters are those of Unicode 15, and the
size that a pattern may have is only estimated (`PatternText.maxPatternSize`).
-/

namespace EnvMarkers

/-- The pattern that a text writes under some options. -/
def Pattern.ofText? (options : PatternOptions) (source : String) : Option Pattern :=
  (Expr.ofText? options source).map fun e => ⟨source, fun text => e.matchesIn text.toList⟩

namespace Libraries

/-- The languages that this library brings along; `reason` is what is said of a text that is
refused. -/
def builtin (reason : String → String) : Libraries where
  pattern source options :=
    match Pattern.ofText? options source with
    | some p => .ok p
    | none => .error (reason source)
  version text :=
    match Version.ofText? text with
    | some v => .ok v
    | none => .error (reason text)
  complaint := reason

/-- The same, with nothing to say. -/
def terse : Libraries :=
  builtin fun _ => ""

end Libraries

end EnvMarkers
