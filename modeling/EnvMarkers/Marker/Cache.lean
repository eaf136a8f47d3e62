import EnvMarkers.Marker.Evaluation
import EnvMarkers.Marker.Parse

/-!
# The cache of parsed markers

Markers are parsed once and kept under the text they were written as, spaces included.  The cache
holds a bounded number of them and is emptied when one more would not fit.  Looking a text up and
storing its marker are two steps, between which others may use the cache.
-/

namespace EnvMarkers

/-- How many markers a cache may hold. -/
def maxCachedMarkers : Nat := 4096

/-- Markers by the texts they were written as. -/
structure ParseCache where
  /-- The markers that are held. -/
  held : Std.TreeMap String Marker

namespace ParseCache

/-- The cache that holds nothing. -/
def empty : ParseCache := ⟨∅⟩

instance : Inhabited ParseCache := ⟨empty⟩

/-- The number of markers that are held. -/
def size (cache : ParseCache) : Nat :=
  cache.held.size

/-- Whether a text is held. -/
def contains (cache : ParseCache) (text : String) : Bool :=
  cache.held.contains text

/-- The marker held for a text, if there is one. -/
def get? (cache : ParseCache) (text : String) : Option Marker :=
  cache.held[text]?

/-- Looks a text up and reports if it is found. -/
def lookup (cache : ParseCache) (text : String) : Logged (Option Marker) :=
  match cache.get? text with
  | some marker => do
    Logged.report (.cacheHit text)
    return some marker
  | none => pure none

/-- Stores a marker under its text.  A cache with `limit` markers that does not hold the text is
emptied first, and that is reported. -/
def store (limit : Nat) (text : String) (marker : Marker) (cache : ParseCache) :
    Logged ParseCache :=
  if limit ≤ cache.size && !cache.contains text then do
    Logged.report (.cacheCleared cache.size)
    return ⟨(∅ : Std.TreeMap String Marker).insert text marker⟩
  else return ⟨cache.held.insert text marker⟩

/-- The marker that a text writes, from the cache if it is held there.  A text that cannot be
parsed is not stored. -/
def parse (text : String) (cache : ParseCache) :
    Logged (Except MarkerFault Marker × ParseCache) := do
  match ← cache.lookup text with
  | some marker => return (.ok marker, cache)
  | none =>
    match ← Marker.parse text with
    | .error fault => return (.error fault, cache)
    | .ok marker =>
      Logged.report (.cacheMiss text)
      return (.ok marker, ← cache.store maxCachedMarkers text marker)

/-- Evaluates the marker that a text writes.  A blank text places no condition. -/
def evaluate (text : String) (env : Environment) (cache : ParseCache) :
    Logged (Except MarkerFault Marker × ParseCache) := do
  if Text.isBlankText text then return (.ok (.literal true), cache)
  else
    let (parsed, cache) ← cache.parse text
    match parsed with
    | .error fault => return (.error fault, cache)
    | .ok marker => return (.ok (← marker.evaluate env), cache)

end ParseCache

end EnvMarkers
