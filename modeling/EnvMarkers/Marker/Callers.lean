import EnvMarkers.Marker.Session

/-!
# A cache with many callers

Calls for the markers of texts that share a cache.  A call looks its text up, and if it is not held,
reads it and stores the marker; others may use the cache before it does.  A run is any order of
these steps, of any number of calls, with the cache being cleared in between.
-/

namespace EnvMarkers.ParseCache

/-- How far a call for the marker of a text has come. -/
inductive Call where
  /-- The text has not been looked up. -/
  | waiting (text : String)
  /-- The text was not held and has been read; its marker is still to be stored. -/
  | storing (text : String) (marker : Marker)
  /-- The call has an outcome. -/
  | done (outcome : Except MarkerFault Marker)

/-- The next step of a call on a cache. -/
def Call.advance : Call → ParseCache → Logged (Call × ParseCache)
  | waiting text, cache => do
    match ← cache.lookup text with
    | some marker => return (done (.ok marker), cache)
    | none =>
      match ← Marker.parse text with
      | .error fault => return (done (.error fault), cache)
      | .ok marker =>
        Logged.report (.cacheMiss text)
        return (storing text marker, cache)
  | storing text marker, cache => do
    return (done (.ok marker), ← cache.store maxCachedMarkers text marker)
  | done outcome, cache => return (done outcome, cache)

/-- A cache and the calls that share it. -/
structure Shared where
  /-- The cache. -/
  cache : ParseCache
  /-- How far each of the calls has come. -/
  calls : Nat → Call

/-- Whose turn it is. -/
inductive Turn where
  /-- A call takes its next step. -/
  | call (i : Nat)
  /-- The cache is cleared. -/
  | clear
  deriving DecidableEq

namespace Shared

/-- An empty cache, and a call for each of the texts. -/
def start (texts : Nat → String) : Shared :=
  ⟨empty, fun i => .waiting (texts i)⟩

/-- One turn: a call takes its next step on the cache, or the cache is cleared. -/
def step (s : Shared) : Turn → Logged Shared
  | .call i => do
    let (next, cache) ← (s.calls i).advance s.cache
    return ⟨cache, fun j => if j = i then next else s.calls j⟩
  | .clear => return ⟨s.cache.clear, s.calls⟩

/-- One turn after another. -/
def run (s : Shared) (turns : List Turn) : Logged Shared :=
  turns.foldlM step s

end Shared

end EnvMarkers.ParseCache
