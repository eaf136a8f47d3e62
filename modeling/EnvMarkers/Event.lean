import EnvMarkers.Marker.Basic
import EnvMarkers.Marker.Shape

/-!
# Events

What the library reports while it works, besides its answers: an item sequence that was rejected,
a comparison that stayed open although its variable is bound, and what happened to the cache of
parsed markers.  `Logged` pairs an answer with the events on the way to it.
-/

namespace EnvMarkers

/-- Something the library reports while it works. -/
inductive Event where
  /-- A marker text was found in the cache. -/
  | cacheHit (marker : String)
  /-- A marker text was parsed, since the cache did not hold it. -/
  | cacheMiss (marker : String)
  /-- The cache was full and has been emptied. -/
  | cacheCleared (entries : Nat)
  /-- None of the candidates of a bound variable decides a comparison. -/
  | undecided (comparison : Comparison) (candidates : Nat)
  /-- A sequence of items was rejected. -/
  | rejected (fault : ShapeFault)
  deriving DecidableEq, Repr, Inhabited

/-- An answer and the events on the way to it, the earliest first. -/
structure Logged (α : Type) where
  /-- The answer. -/
  value : α
  /-- The events, the earliest first. -/
  events : List Event
  deriving DecidableEq, Repr, Inhabited

namespace Logged

variable {α β : Type}

instance : Monad Logged where
  pure a := ⟨a, []⟩
  bind x f :=
    let y := f x.value
    ⟨y.value, x.events ++ y.events⟩

/-- Reports one event. -/
def report (e : Event) : Logged Unit := ⟨(), [e]⟩

@[simp] theorem value_pure (a : α) : (pure a : Logged α).value = a := rfl

@[simp] theorem events_pure (a : α) : (pure a : Logged α).events = [] := rfl

@[simp] theorem value_bind (x : Logged α) (f : α → Logged β) :
    (x >>= f).value = (f x.value).value := rfl

@[simp] theorem events_bind (x : Logged α) (f : α → Logged β) :
    (x >>= f).events = x.events ++ (f x.value).events := rfl

@[simp] theorem value_map (f : α → β) (x : Logged α) : (f <$> x).value = f x.value := rfl

@[simp] theorem events_map (f : α → β) (x : Logged α) : (f <$> x).events = x.events := by
  change x.events ++ [] = x.events
  rw [List.append_nil]

@[ext] theorem ext {x y : Logged α} (hv : x.value = y.value) (he : x.events = y.events) :
    x = y := by
  cases x; cases y; simp_all

instance : LawfulMonad Logged := by
  refine LawfulMonad.mk' Logged ?_ ?_ ?_ <;> intros <;> ext1 <;> simp

end Logged

end EnvMarkers
