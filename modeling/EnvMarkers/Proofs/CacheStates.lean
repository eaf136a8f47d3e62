import EnvMarkers.Proofs.Rejections
import EnvMarkers.Proofs.SharedCache
import Mathlib.Data.Finset.Card

/-!
# The states of the cache

Of what a cache has been asked for before, only the set of the texts it holds makes a difference to
what it reports and what it holds next (`ParseCache.Step`): a text that it holds is a hit, one that
writes no marker leaves it alone, and any other is a miss and joins the set, which is emptied first
if it has `maxCachedMarkers` texts.  All sessions with a cache that is empty at first go that way
(`ParseCache.serveAll_steps`).

What carries this is that the set never has more texts than that (`ParseCache.Step.card_le`), so
that there is room for one more unless it has exactly as many.  What else is reported, about faults
and about comparisons that stay open, is not about the cache.
-/

namespace EnvMarkers

/-- Whether an event is about the cache. -/
def Event.IsOfCache : Event → Prop
  | cacheHit _ | cacheMiss _ | cacheCleared _ => True
  | undecided .. | rejected _ => False

/-! ### What else is reported -/

theorem Marker.not_isOfCache_of_parse {text : String} {e : Event}
    (h : e ∈ (Marker.parse text).events) : ¬ e.IsOfCache := by
  rw [events_parse] at h
  split at h
  · obtain rfl := List.mem_singleton.mp h
    exact id
  · cases h

/-- A text that is read without a fault is read without a report. -/
theorem Marker.events_parse_of_ok {text : String} {m : Marker}
    (h : (Marker.parse text).value = .ok m) : (Marker.parse text).events = [] := by
  rw [events_parse, h]

theorem Comparison.not_isOfCache_of_check {c : Comparison} {env : Environment} {e : Event}
    (h : e ∈ (c.check env).events) : ¬ e.IsOfCache := by
  unfold check at h
  split at h
  · cases h
  split at h
  · obtain rfl := List.mem_singleton.mp h
    exact id
  · cases h

theorem Marker.not_isOfCache_of_evaluate {m : Marker} {env : Environment} {e : Event}
    (h : e ∈ (m.evaluate env).events) : ¬ e.IsOfCache := by
  rw [evaluate_eq] at h
  obtain ⟨c, -, hc⟩ := List.mem_flatMap.mp h
  exact Comparison.not_isOfCache_of_check hc

namespace ParseCache

variable {cache : ParseCache} {text : String} {m : Marker}

/-! ### The texts that are held -/

/-- The texts whose markers are held. -/
def texts (cache : ParseCache) : Finset String :=
  cache.held.keys.toFinset

theorem mem_texts : text ∈ cache.texts ↔ cache.contains text = true := by
  rw [texts, List.mem_toFinset, Std.TreeMap.mem_keys, contains, Std.TreeMap.contains_iff_mem]

theorem notMem_texts : text ∉ cache.texts ↔ cache.get? text = none := by
  rw [mem_texts, contains_iff, ← Option.isSome_iff_exists, Option.not_isSome_iff_eq_none]

theorem card_texts (cache : ParseCache) : cache.texts.card = cache.size := by
  rw [texts, List.toFinset_card_of_nodup Std.TreeMap.nodup_keys, Std.TreeMap.length_keys, size]

theorem texts_empty : empty.texts = ∅ := by
  ext text
  simp [mem_texts, contains_empty]

/-- Storing a text adds it if there is room for it. -/
theorem texts_store_of_lt {limit : Nat} (h : cache.texts.card < limit) :
    (cache.store limit text m).value.texts = insert text cache.texts := by
  rw [card_texts] at h
  ext other
  have hroom : ¬ (limit ≤ cache.size ∧ cache.contains text = false) := fun hfull =>
    absurd hfull.1 (Nat.not_le.mpr h)
  rw [mem_texts, contains_store, Finset.mem_insert, mem_texts, and_iff_left hroom]

/-- Storing a text that does not fit leaves nothing else. -/
theorem texts_store_of_le {limit : Nat} (hfull : limit ≤ cache.texts.card)
    (hnew : text ∉ cache.texts) : (cache.store limit text m).value.texts = {text} := by
  rw [card_texts] at hfull
  rw [mem_texts, Bool.not_eq_true] at hnew
  ext other
  rw [mem_texts, contains_store, Finset.mem_singleton]
  simp [hfull, hnew]

theorem events_store_of_lt {limit : Nat} (h : cache.texts.card < limit) :
    (cache.store limit text m).events = [] := by
  rw [card_texts] at h
  unfold store
  rw [if_neg]
  · rfl
  · simp [h]

theorem events_store_of_le {limit : Nat} (hfull : limit ≤ cache.texts.card)
    (hnew : text ∉ cache.texts) :
    (cache.store limit text m).events = [.cacheCleared cache.texts.card] := by
  rw [card_texts] at hfull ⊢
  rw [mem_texts, Bool.not_eq_true] at hnew
  unfold store
  rw [if_pos]
  · rfl
  · simp [hfull, hnew]

/-! ### One request -/

/-- What is reported, and which texts are held then, when a cache with the texts `held` is asked for
the marker of a text. -/
inductive Asked (held : Finset String) (text : String) : List Event → Finset String → Prop
  /-- The text is held. -/
  | hit : text ∈ held → Asked held text [.cacheHit text] held
  /-- The text is not held and writes no marker; nothing is stored. -/
  | fault {fault : MarkerFault} {events : List Event} :
    text ∉ held → (Marker.parse text).value = .error fault → (∀ e ∈ events, ¬ e.IsOfCache) →
      Asked held text events held
  /-- The text is not held, writes a marker, and there is room for it. -/
  | miss {m : Marker} :
    text ∉ held → (Marker.parse text).value = .ok m → held.card < maxCachedMarkers →
      Asked held text [.cacheMiss text] (insert text held)
  /-- The text is not held and writes a marker, and the cache is full, so that it is emptied before.
  -/
  | full {m : Marker} :
    text ∉ held → (Marker.parse text).value = .ok m → held.card = maxCachedMarkers →
      Asked held text [.cacheMiss text, .cacheCleared maxCachedMarkers] {text}

/-- What is reported, and which texts are held then, when a cache with the texts `held` serves a
request. -/
inductive Step (held : Finset String) : Request → List Event → Finset String → Prop
  /-- A marker is asked for. -/
  | parse {text : String} {events : List Event} {held' : Finset String} :
    Asked held text events held' → Step held (.parse text) events held'
  /-- A blank text is evaluated without the cache. -/
  | blank {text : String} {env : Environment} :
    (∀ c ∈ text.toList, Text.isBlank c = true) → Step held (.evaluate text env) [] held
  /-- A marker is asked for and evaluated, which reports nothing of the cache. -/
  | evaluate {text : String} {env : Environment} {events rest : List Event}
      {held' : Finset String} :
    (∃ c ∈ text.toList, Text.isBlank c = false) → Asked held text events held' →
      (∀ e ∈ rest, ¬ e.IsOfCache) → Step held (.evaluate text env) (events ++ rest) held'
  /-- The cache is cleared. -/
  | clear : Step held .clear [] ∅
  /-- The cache is only counted. -/
  | size : Step held .size [] held

theorem parse_of_mem (h : text ∈ cache.texts) :
    ∃ m, cache.parse text = ⟨(.ok m, cache), [.cacheHit text]⟩ := by
  obtain ⟨m, hget⟩ := (contains_iff cache text).mp (mem_texts.mp h)
  refine ⟨m, ?_⟩
  unfold parse lookup
  rw [hget]
  rfl

theorem parse_of_fault (h : text ∉ cache.texts) {fault : MarkerFault}
    (hvalue : (Marker.parse text).value = .error fault) :
    cache.parse text = ⟨(.error fault, cache), (Marker.parse text).events⟩ := by
  have hget := notMem_texts.mp h
  unfold parse lookup
  ext1
  · simp [hget, hvalue]
  · simp [hget, hvalue]

theorem parse_of_ok (h : text ∉ cache.texts) (hvalue : (Marker.parse text).value = .ok m) :
    cache.parse text =
      ⟨(.ok m, (cache.store maxCachedMarkers text m).value),
        .cacheMiss text :: (cache.store maxCachedMarkers text m).events⟩ := by
  have hget := notMem_texts.mp h
  have hevents := Marker.events_parse_of_ok hvalue
  unfold parse lookup
  ext1
  · simp [hget, hvalue]
  · simp [hget, hvalue, hevents, Logged.report]

theorem asked_parse (hsize : cache.texts.card ≤ maxCachedMarkers) (text : String) :
    Asked cache.texts text (cache.parse text).events (cache.parse text).value.2.texts := by
  by_cases hheld : text ∈ cache.texts
  · obtain ⟨m, hparse⟩ := parse_of_mem hheld
    rw [hparse]
    exact .hit hheld
  cases hvalue : (Marker.parse text).value with
  | error fault =>
    rw [parse_of_fault hheld hvalue]
    exact .fault hheld hvalue fun e => Marker.not_isOfCache_of_parse
  | ok m =>
    rw [parse_of_ok hheld hvalue]
    -- A cache that is not too large has room for one more or is full to the last place.
    rcases Nat.lt_or_eq_of_le hsize with hroom | hfull
    · rw [texts_store_of_lt hroom, events_store_of_lt hroom]
      exact .miss hheld hvalue hroom
    · rw [texts_store_of_le hfull.ge hheld, events_store_of_le hfull.ge hheld, hfull]
      exact .full hheld hvalue hfull

/-- What a text that is not blank writes is asked for before it is evaluated. -/
theorem evaluate_of_not_blank (env : Environment) (h : ¬ Text.isBlankText text = true) :
    ∃ rest, (cache.evaluate text env).events = (cache.parse text).events ++ rest ∧
      (∀ e ∈ rest, ¬ e.IsOfCache) ∧
      (cache.evaluate text env).value.2 = (cache.parse text).value.2 := by
  unfold evaluate
  rw [if_neg h]
  simp only [Logged.events_bind, Logged.value_bind]
  cases (cache.parse text).value.1 with
  | error fault => exact ⟨[], rfl, by simp, rfl⟩
  | ok m =>
    refine ⟨(m.evaluate env).events, ?_, fun e => Marker.not_isOfCache_of_evaluate, rfl⟩
    simp

theorem step_serve (hsize : cache.texts.card ≤ maxCachedMarkers) (request : Request) :
    Step cache.texts request (cache.serve request).events
      (cache.serve request).value.2.texts := by
  cases request with
  | parse text =>
    simp only [serve, Logged.events_map, Logged.value_map]
    exact .parse (asked_parse hsize text)
  | evaluate text env =>
    simp only [serve, Logged.events_map, Logged.value_map]
    by_cases hblank : Text.isBlankText text = true
    · have heval : cache.evaluate text env = pure (.ok (.literal true), cache) := by
        rw [evaluate, if_pos hblank]
      rw [heval]
      exact .blank (Text.isBlankText_iff.mp hblank)
    · obtain ⟨rest, hevents, hrest, hcache⟩ := cache.evaluate_of_not_blank env hblank
      have hnot : ∃ c ∈ text.toList, Text.isBlank c = false := by
        simpa [Text.isBlankText_iff] using hblank
      rw [hevents, hcache]
      exact .evaluate hnot (asked_parse hsize text) hrest
  | clear =>
    rw [show (cache.serve .clear).value.2.texts = ∅ from texts_empty]
    exact .clear
  | size => exact .size

/-- A step leaves a cache that is not too large. -/
theorem Asked.card_le {held held' : Finset String} {events : List Event}
    (h : Asked held text events held') (hsize : held.card ≤ maxCachedMarkers) :
    held'.card ≤ maxCachedMarkers := by
  cases h with
  | hit _ => exact hsize
  | fault _ _ _ => exact hsize
  | miss _ _ hroom => exact (Finset.card_insert_le text held).trans hroom
  | full _ _ _ =>
    rw [Finset.card_singleton]
    decide

theorem Step.card_le {held held' : Finset String} {request : Request} {events : List Event}
    (h : Step held request events held') (hsize : held.card ≤ maxCachedMarkers) :
    held'.card ≤ maxCachedMarkers := by
  cases h with
  | parse hasked => exact hasked.card_le hsize
  | blank _ => exact hsize
  | evaluate _ hasked _ => exact hasked.card_le hsize
  | clear => exact Nat.zero_le _
  | size => exact hsize

/-! ### Sessions -/

/-- What is reported, and which texts are held in the end, when a cache with the texts `held` serves
one request after another. -/
inductive Run : Finset String → List Request → List Event → Finset String → Prop
  /-- There is no request. -/
  | nil {held : Finset String} : Run held [] [] held
  /-- A request is served, and then the others. -/
  | cons {held held' last : Finset String} {request : Request} {requests : List Request}
      {events later : List Event} :
    Step held request events held' → Run held' requests later last →
      Run held (request :: requests) (events ++ later) last

theorem Run.card_le {held last : Finset String} {requests : List Request} {events : List Event}
    (h : Run held requests events last) (hsize : held.card ≤ maxCachedMarkers) :
    last.card ≤ maxCachedMarkers := by
  induction h with
  | nil => exact hsize
  | cons hstep _ ih => exact ih (hstep.card_le hsize)

theorem run_serveAll (hsize : cache.texts.card ≤ maxCachedMarkers) (requests : List Request) :
    Run cache.texts requests (cache.serveAll requests).events
      (cache.serveAll requests).value.2.texts := by
  induction requests generalizing cache with
  | nil => exact .nil
  | cons request rest ih =>
    have hstep := step_serve hsize request
    have hrest := ih (hstep.card_le hsize)
    unfold serveAll
    simp only [Logged.events_bind, Logged.value_bind, Logged.events_pure, List.append_nil]
    exact .cons hstep hrest

/-- A session with a cache that is empty at first goes from one set of texts to the next as requests
do, and so does every request after it.  The size of the cache is the number of its texts, and not
larger than it may be. -/
theorem serveAll_steps (requests : List Request) :
    let log := (empty.serveAll requests).events
    let cache := (empty.serveAll requests).value.2
    Run ∅ requests log cache.texts ∧
      (∀ request, Step cache.texts request (cache.serve request).events
        (cache.serve request).value.2.texts) ∧
      (cache.serve .size).value.1 = .size cache.texts.card ∧
      cache.texts.card ≤ maxCachedMarkers := by
  have hstart : empty.texts.card ≤ maxCachedMarkers := by
    rw [texts_empty]
    exact Nat.zero_le _
  have hrun := run_serveAll hstart requests
  have hsize := hrun.card_le hstart
  rw [texts_empty] at hrun
  refine ⟨hrun, step_serve hsize, ?_, hsize⟩
  rw [card_texts]
  rfl

end ParseCache

end EnvMarkers
