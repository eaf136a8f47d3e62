import EnvMarkers.Marker.Cache

/-!
# Sessions with a cache

What a cache of parsed markers may be asked for, and how it serves a sequence of such requests, each
with what the one before has left of it.
-/

namespace EnvMarkers

namespace ParseCache

/-- The cache after everything in it has been dropped. -/
def clear (_ : ParseCache) : ParseCache := empty

/-- Something that a cache is asked for. -/
inductive Request where
  /-- The marker that a text writes. -/
  | parse (text : String)
  /-- What is left in an environment of the marker that a text writes. -/
  | evaluate (text : String) (env : Environment)
  /-- To drop all markers. -/
  | clear
  /-- The number of markers. -/
  | size

/-- What a cache gives back. -/
inductive Reply where
  /-- A marker, or why there is none. -/
  | marker (outcome : Except MarkerFault Marker)
  /-- The markers have been dropped. -/
  | cleared
  /-- The number of markers. -/
  | size (held : Nat)

/-- Serves a single request. -/
def serve (request : Request) (cache : ParseCache) : Logged (Reply × ParseCache) :=
  match request with
  | .parse text => (fun (outcome, cache) => (.marker outcome, cache)) <$> cache.parse text
  | .evaluate text env =>
    (fun (outcome, cache) => (.marker outcome, cache)) <$> cache.evaluate text env
  | .clear => pure (.cleared, cache.clear)
  | .size => pure (.size cache.size, cache)

/-- Serves one request after another. -/
def serveAll : List Request → ParseCache → Logged (List Reply × ParseCache)
  | [], cache => pure ([], cache)
  | request :: rest, cache => do
    let (reply, cache) ← cache.serve request
    let (replies, cache) ← cache.serveAll rest
    return (reply :: replies, cache)

end ParseCache

end EnvMarkers
