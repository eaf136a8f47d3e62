import EnvMarkers.Marker.Session
import Mathlib.Data.List.Forall2
import Mathlib.Data.List.TakeWhile
import Mathlib.Tactic.SplitIfs

/-!
# The cache makes no difference

Whatever a cache has been asked for before, it gives the same answers as reading every text anew
(`ParseCache.serveAll_transparent`): it may have found the text, may have been emptied in between,
or may have failed to read the text any number of times.

What carries this through a session is that every marker in the cache is the one that its text
writes (`ParseCache.Sound`).  Texts are kept as they are, white space included, so the same marker
may be held several times.
-/

namespace EnvMarkers

/-- A text is blank if each of its characters is. -/
theorem Text.isBlankText_iff {s : String} :
    isBlankText s = true ↔ ∀ c ∈ s.toList, isBlank c = true := by
  rw [isBlankText, List.isEmpty_iff, trimChars, List.reverse_eq_nil_iff, List.dropWhile_eq_nil_iff]
  constructor
  · intro h c hc
    rw [← List.takeWhile_append_dropWhile (p := isBlank) (l := s.toList), List.mem_append] at hc
    rcases hc with hfront | hback
    · exact List.all_eq_true.mp List.all_takeWhile c hfront
    · exact h c (List.mem_reverse.mpr hback)
  · intro h c hc
    exact h c ((List.dropWhile_sublist isBlank).subset (List.mem_reverse.mp hc))

namespace ParseCache

/-! ### What is held -/

theorem get?_empty (text : String) : empty.get? text = none := by
  simp [empty, get?]

/-- A stored marker is held under its text; the other texts are held as before, unless the cache had
to be emptied. -/
theorem get?_store (cache : ParseCache) (limit : Nat) (text other : String) (m : Marker) :
    (cache.store limit text m).value.get? other =
      if other = text then some m
      else if limit ≤ cache.size ∧ cache.contains text = false then none
      else cache.get? other := by
  have hinsert : ∀ held : Std.TreeMap String Marker,
      (held.insert text m)[other]? = if other = text then some m else held[other]? := by
    intro held
    simp only [Std.TreeMap.getElem?_insert, Std.LawfulEqCmp.compare_eq_iff_eq]
    simp only [eq_comm]
  unfold store
  by_cases hfull : limit ≤ cache.size ∧ cache.contains text = false
  · have hcleared : (limit ≤ cache.size && !cache.contains text) = true := by
      simp [hfull.1, hfull.2]
    rw [if_pos hcleared, if_pos hfull]
    show ((∅ : Std.TreeMap String Marker).insert text m)[other]? = _
    rw [hinsert]
    simp
  · have hkept : ¬ (limit ≤ cache.size && !cache.contains text) = true := by
      simpa using hfull
    rw [if_neg hkept, if_neg hfull]
    show (cache.held.insert text m)[other]? = _
    rw [hinsert]
    rfl

/-- A text that is held is not read; one that is not held is, and stored if it writes a marker. -/
theorem value_parse (cache : ParseCache) (text : String) :
    (cache.parse text).value =
      match cache.get? text, (Marker.parse text).value with
      | some m, _ => (.ok m, cache)
      | none, .error fault => (.error fault, cache)
      | none, .ok m => (.ok m, (cache.store maxCachedMarkers text m).value) := by
  unfold parse lookup
  cases cache.get? text with
  | some m => rfl
  | none =>
    simp only [Logged.value_bind, Logged.value_pure]
    cases (Marker.parse text).value with
    | error fault => rfl
    | ok m => rfl

/-! ### Held markers are right -/

/-- Whether every marker that is held is the one that its text writes. -/
def Sound (cache : ParseCache) : Prop :=
  ∀ text m, cache.get? text = some m → (Marker.parse text).value = .ok m

theorem sound_empty : empty.Sound := by
  intro text m h
  rw [get?_empty] at h
  cases h

theorem Sound.store {cache : ParseCache} (h : cache.Sound) (limit : Nat) {text : String}
    {m : Marker} (hm : (Marker.parse text).value = .ok m) :
    (cache.store limit text m).value.Sound := by
  intro other n hn
  rw [get?_store] at hn
  split_ifs at hn with hother hfull
  · obtain rfl := Option.some.inj hn
    rw [hother, hm]
  · exact h other n hn

/-- A sound cache gives the marker that a text writes, or the fault in it, and stays sound. -/
theorem Sound.parse {cache : ParseCache} (h : cache.Sound) (text : String) :
    (cache.parse text).value.1 = (Marker.parse text).value ∧
      (cache.parse text).value.2.Sound := by
  rw [value_parse]
  cases hget : cache.get? text with
  | some m => exact ⟨(h text m hget).symm, h⟩
  | none =>
    cases hparse : (Marker.parse text).value with
    | error fault => exact ⟨rfl, h⟩
    | ok m => exact ⟨rfl, h.store maxCachedMarkers hparse⟩

/-- The outcome of evaluating what a text writes, when it is read anew.  A blank text places no
condition, although it is not a marker itself. -/
def Evaluates (text : String) (env : Environment) (outcome : Except MarkerFault Marker) : Prop :=
  ((∀ c ∈ text.toList, Text.isBlank c = true) → outcome = .ok (.literal true)) ∧
    ((∃ c ∈ text.toList, Text.isBlank c = false) →
      outcome = (Marker.parse text).value.map fun m => (m.evaluate env).value)

theorem Sound.evaluate {cache : ParseCache} (h : cache.Sound) (text : String) (env : Environment) :
    Evaluates text env (cache.evaluate text env).value.1 ∧
      (cache.evaluate text env).value.2.Sound := by
  unfold ParseCache.evaluate
  by_cases hblank : Text.isBlankText text = true
  · rw [if_pos hblank]
    refine ⟨⟨fun _ => rfl, ?_⟩, h⟩
    rintro ⟨c, hc, hfalse⟩
    rw [Text.isBlankText_iff.mp hblank c hc] at hfalse
    cases hfalse
  · obtain ⟨hanswer, hsound⟩ := h.parse text
    rw [if_neg hblank]
    simp only [Logged.value_bind, hanswer]
    have hnot : ¬ ∀ c ∈ text.toList, Text.isBlank c = true :=
      fun hall => hblank (Text.isBlankText_iff.mpr hall)
    cases hparse : (Marker.parse text).value with
    | error fault => exact ⟨⟨fun hall => absurd hall hnot, fun _ => by rw [hparse]; rfl⟩, hsound⟩
    | ok m => exact ⟨⟨fun hall => absurd hall hnot, fun _ => by rw [hparse]; rfl⟩, hsound⟩

/-! ### Sessions -/

/-- Whether a reply to a request is the one that is given without a cache. -/
def Request.Answered : Request → Reply → Prop
  | .parse text, reply => reply = .marker (Marker.parse text).value
  | .evaluate text env, reply => ∃ outcome, reply = .marker outcome ∧ Evaluates text env outcome
  | .clear, reply => reply = .cleared
  | .size, reply => ∃ held, reply = .size held

/-- A sound cache serves a request as if there were no cache, and stays sound. -/
theorem Sound.serve {cache : ParseCache} (h : cache.Sound) (request : Request) :
    request.Answered (cache.serve request).value.1 ∧ (cache.serve request).value.2.Sound := by
  cases request with
  | parse text =>
    obtain ⟨hanswer, hsound⟩ := h.parse text
    exact ⟨congrArg Reply.marker hanswer, hsound⟩
  | evaluate text env =>
    obtain ⟨hanswer, hsound⟩ := h.evaluate text env
    exact ⟨⟨_, rfl, hanswer⟩, hsound⟩
  | clear => exact ⟨rfl, sound_empty⟩
  | size => exact ⟨⟨_, rfl⟩, h⟩

theorem Sound.serveAll {cache : ParseCache} (h : cache.Sound) (requests : List Request) :
    List.Forall₂ Request.Answered requests (cache.serveAll requests).value.1 ∧
      (cache.serveAll requests).value.2.Sound := by
  induction requests generalizing cache with
  | nil => exact ⟨.nil, h⟩
  | cons request rest ih =>
    obtain ⟨hreply, hnext⟩ := h.serve request
    obtain ⟨hreplies, hlast⟩ := ih hnext
    exact ⟨.cons hreply hreplies, hlast⟩

/-- In every session with a cache that is empty at first, each request is answered as if there were
no cache, and the markers that are held in the end are those that their texts write. -/
theorem serveAll_transparent (requests : List Request) :
    List.Forall₂ Request.Answered requests (empty.serveAll requests).value.1 ∧
      ∀ text m, (empty.serveAll requests).value.2.get? text = some m →
        (Marker.parse text).value = .ok m :=
  sound_empty.serveAll requests

end ParseCache

end EnvMarkers
