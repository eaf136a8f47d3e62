import EnvMarkers.Marker.Callers
import EnvMarkers.Proofs.CacheTransparency
import EnvMarkers.Proofs.DerivedItems

/-!
# Sharing a cache

Calls that share a cache give the markers of their texts, in whatever order their steps are taken
and however often the cache is cleared in between, and the cache never holds more markers than it
may (`ParseCache.Shared.run_start`).

A call that is about to store its marker did not find it, but others may have stored it since.  It
is held exactly if some other call did so and the cache has not been emptied after that
(`ParseCache.Shared.contains_run`), and then storing it once more neither adds a text nor drops one.
Being emptied is the only way to lose it: what another call has stored does not count any more once
the cache was cleared (`ParseCache.Shared.store_after_clear`).
-/

namespace EnvMarkers.ParseCache

/-! ### Storing -/

theorem contains_iff (cache : ParseCache) (text : String) :
    cache.contains text = true ↔ ∃ m, cache.get? text = some m := by
  rw [contains, get?, Std.TreeMap.contains_eq_isSome_getElem?, Option.isSome_iff_exists]

theorem contains_empty (text : String) : empty.contains text = false := by
  simp [empty, contains]

/-- A cache is emptied for a text that it does not hold if it is full; otherwise all that it holds
stays. -/
theorem contains_store (cache : ParseCache) (limit : Nat) (text other : String) (m : Marker) :
    (cache.store limit text m).value.contains other = true ↔
      other = text ∨
        cache.contains other = true ∧ ¬ (limit ≤ cache.size ∧ cache.contains text = false) := by
  rw [contains_iff, get?_store, contains_iff cache other]
  by_cases hother : other = text
  · simp [hother]
  · by_cases hfull : limit ≤ cache.size ∧ cache.contains text = false
    · simp [hother, hfull]
    · simp [hother, hfull]

theorem size_store_le {cache : ParseCache} {limit : Nat} (hpos : 0 < limit)
    (h : cache.size ≤ limit) (text : String) (m : Marker) :
    (cache.store limit text m).value.size ≤ limit := by
  have hsize : cache.held.size ≤ limit := h
  unfold store
  by_cases hfull : (limit ≤ cache.size && !cache.contains text) = true
  · rw [if_pos hfull]
    show ((∅ : Std.TreeMap String Marker).insert text m).size ≤ limit
    have hone : ((∅ : Std.TreeMap String Marker).insert text m).size = 1 := by
      simp [Std.TreeMap.size_insert]
    omega
  · rw [if_neg hfull]
    show (cache.held.insert text m).size ≤ limit
    rw [Std.TreeMap.size_insert]
    by_cases hheld : cache.held.contains text = true
    · rw [if_pos hheld]
      exact hsize
    · -- There is room for one more, since the text did not empty the cache.
      have hroom : ¬ limit ≤ cache.held.size := by
        intro hle
        apply hfull
        simp [contains, hheld, size, hle]
      rw [if_neg hheld]
      omega

/-! ### Steps of a call -/

namespace Call

theorem value_advance_waiting (text : String) (cache : ParseCache) :
    ((waiting text).advance cache).value =
      match cache.get? text, (Marker.parse text).value with
      | some m, _ => (done (.ok m), cache)
      | none, .error fault => (done (.error fault), cache)
      | none, .ok m => (storing text m, cache) := by
  rw [advance, lookup]
  cases cache.get? text with
  | some m => rfl
  | none =>
    simp only [Logged.value_bind, Logged.value_pure]
    cases (Marker.parse text).value with
    | error fault => rfl
    | ok m => rfl

/-- A call whose steps are taken at once is what the cache does for a single caller. -/
theorem advance_advance (text : String) (cache : ParseCache) :
    (do let (next, cache) ← (waiting text).advance cache; next.advance cache) =
      (fun (outcome, cache) => (done outcome, cache)) <$> cache.parse text := by
  rw [advance, parse]
  simp only [bind_assoc, map_bind]
  congr 1
  funext held
  cases held with
  | some m => rfl
  | none =>
    simp only [bind_assoc, map_bind]
    congr 1
    funext parsed
    cases parsed with
    | error fault => rfl
    | ok m =>
      simp only [bind_assoc, pure_bind, map_bind, map_pure]
      rfl

/-- Whether a call is one for the given text, and right about it. -/
def IsFor (text : String) : Call → Prop
  | waiting t => t = text
  | storing t m => t = text ∧ (Marker.parse text).value = .ok m
  | done outcome => outcome = (Marker.parse text).value

/-- How many steps are left to a call at most. -/
def remaining : Call → Nat
  | waiting _ => 2
  | storing .. => 1
  | done _ => 0

theorem remaining_advance (call : Call) (cache : ParseCache) :
    (call.advance cache).value.1.remaining ≤ call.remaining - 1 := by
  cases call with
  | waiting text =>
    rw [value_advance_waiting]
    cases cache.get? text with
    | some m => exact Nat.zero_le _
    | none => cases (Marker.parse text).value <;> simp [remaining]
  | storing text m => exact Nat.le_refl _
  | done outcome => exact Nat.le_refl _

/-- A call that uses a sound cache stays right, and leaves a sound cache that is not too large. -/
theorem IsFor.advance {text : String} {call : Call} (h : call.IsFor text) {cache : ParseCache}
    (hsound : cache.Sound) (hsize : cache.size ≤ maxCachedMarkers) :
    (call.advance cache).value.1.IsFor text ∧ (call.advance cache).value.2.Sound ∧
      (call.advance cache).value.2.size ≤ maxCachedMarkers := by
  cases call with
  | waiting t =>
    obtain rfl : t = text := h
    rw [value_advance_waiting]
    cases hget : cache.get? t with
    | some m => exact ⟨(hsound t m hget).symm, hsound, hsize⟩
    | none =>
      cases hparse : (Marker.parse t).value with
      | error fault => exact ⟨hparse.symm, hsound, hsize⟩
      | ok m => exact ⟨⟨rfl, hparse⟩, hsound, hsize⟩
  | storing t m =>
    obtain ⟨rfl, hm⟩ := h
    exact ⟨hm.symm, hsound.store maxCachedMarkers hm, size_store_le (by decide) hsize t m⟩
  | done outcome => exact ⟨h, hsound, hsize⟩

end Call

namespace Shared

variable {s : Shared} {texts : Nat → String} {text : String}

theorem value_run_cons (s : Shared) (turn : Turn) (turns : List Turn) :
    (s.run (turn :: turns)).value = ((s.step turn).value.run turns).value :=
  rfl

theorem value_run_append (s : Shared) (turns later : List Turn) :
    (s.run (turns ++ later)).value = ((s.run turns).value.run later).value := by
  rw [run, List.foldlM_append, Logged.value_bind]
  rfl

theorem calls_step_self (s : Shared) (i : Nat) :
    (s.step (.call i)).value.calls i = ((s.calls i).advance s.cache).value.1 :=
  if_pos rfl

theorem calls_step_of_ne (s : Shared) {i j : Nat} (h : j ≠ i) :
    (s.step (.call i)).value.calls j = s.calls j :=
  if_neg h

/-! ### Right outcomes in a bounded cache -/

/-- Whether the calls and the cache are right about the texts, and the cache is not too large. -/
structure Consistent (texts : Nat → String) (s : Shared) : Prop where
  /-- Every marker that is held is the one its text writes. -/
  sound : s.cache.Sound
  /-- The cache holds no more markers than it may. -/
  size_le : s.cache.size ≤ maxCachedMarkers
  /-- Each call is one for its own text, and right about it. -/
  calls : ∀ i, (s.calls i).IsFor (texts i)

theorem consistent_start (texts : Nat → String) : (start texts).Consistent texts where
  sound := sound_empty
  size_le := Nat.zero_le _
  calls _ := rfl

theorem Consistent.step (h : s.Consistent texts) (turn : Turn) :
    (s.step turn).value.Consistent texts := by
  cases turn with
  | clear => exact ⟨sound_empty, Nat.zero_le _, h.calls⟩
  | call i =>
    obtain ⟨hcall, hsound, hsize⟩ := (h.calls i).advance h.sound h.size_le
    refine ⟨hsound, hsize, fun j => ?_⟩
    by_cases hj : j = i
    · rw [hj, calls_step_self]
      exact hcall
    · rw [calls_step_of_ne s hj]
      exact h.calls j

theorem Consistent.run (h : s.Consistent texts) (turns : List Turn) :
    (s.run turns).value.Consistent texts := by
  induction turns generalizing s with
  | nil => exact h
  | cons turn turns ih => exact ih (h.step turn)

theorem remaining_step (s : Shared) (turn : Turn) (i : Nat) :
    ((s.step turn).value.calls i).remaining ≤
      (s.calls i).remaining - [turn].count (.call i) := by
  cases turn with
  | clear => exact Nat.le_refl _
  | call j =>
    by_cases hj : i = j
    · rw [hj, calls_step_self, List.count_singleton_self]
      exact (s.calls j).remaining_advance s.cache
    · rw [calls_step_of_ne s hj]
      have hcount : [Turn.call j].count (.call i) = 0 := by
        simpa [List.count_singleton] using Ne.symm hj
      rw [hcount]
      exact Nat.le_refl _

/-- Each turn of a call is a step of it, until it is done. -/
theorem remaining_run (s : Shared) (turns : List Turn) (i : Nat) :
    ((s.run turns).value.calls i).remaining ≤ (s.calls i).remaining - turns.count (.call i) := by
  induction turns generalizing s with
  | nil => exact Nat.le_refl _
  | cons turn turns ih =>
    have hfirst := remaining_step s turn i
    have hrest := ih (s.step turn).value
    have hcount : (turn :: turns).count (.call i) =
        [turn].count (.call i) + turns.count (.call i) := by
      rw [← List.count_append, List.singleton_append]
    rw [value_run_cons, hcount]
    omega

/-! ### What is held -/

/-- Whether a turn empties the cache: it is cleared, or full while another text is to be stored. -/
def Empties (s : Shared) : Turn → Prop
  | .clear => True
  | .call i => ∃ text m, s.calls i = .storing text m ∧ s.cache.contains text = false ∧
      maxCachedMarkers ≤ s.cache.size

/-- Whether none of the turns empties the cache. -/
def Keeps (s : Shared) : List Turn → Prop
  | [] => True
  | turn :: turns => ¬ s.Empties turn ∧ (s.step turn).value.Keeps turns

/-- After a turn a text is held if that turn stored it, or if it was held and not dropped. -/
theorem contains_step (s : Shared) (turn : Turn) (text : String) :
    (s.step turn).value.cache.contains text = true ↔
      (∃ i m, turn = .call i ∧ s.calls i = .storing text m) ∨
        s.cache.contains text = true ∧ ¬ s.Empties turn := by
  cases turn with
  | clear =>
    show empty.contains text = true ↔ _
    simp [contains_empty, Empties]
  | call i =>
    show ((s.calls i).advance s.cache).value.2.contains text = true ↔ _
    cases hcall : s.calls i with
    | waiting t =>
      have hcache : ((Call.waiting t).advance s.cache).value.2 = s.cache := by
        rw [Call.value_advance_waiting]
        cases s.cache.get? t with
        | some m => rfl
        | none => cases (Marker.parse t).value <;> rfl
      simp [hcache, Empties, hcall]
    | storing t m =>
      have hempties : s.Empties (.call i) ↔
          maxCachedMarkers ≤ s.cache.size ∧ s.cache.contains t = false := by
        simp [Empties, hcall, and_comm]
      have hstores : (∃ j n, Turn.call i = .call j ∧ s.calls j = .storing text n) ↔ text = t := by
        simp [hcall, eq_comm]
      rw [hempties, hstores]
      exact contains_store s.cache maxCachedMarkers t text m
    | done outcome => simp [Call.advance, Empties, hcall]

/-- After a run a text is held if it was held before and not dropped, or if it was not dropped since
one of the turns stored it. -/
theorem contains_run (s : Shared) (turns : List Turn) (text : String) :
    (s.run turns).value.cache.contains text = true ↔
      s.cache.contains text = true ∧ s.Keeps turns ∨
        ∃ xs j ys, turns = xs ++ .call j :: ys ∧
          (∃ m, (s.run xs).value.calls j = .storing text m) ∧
            (s.run (xs ++ [.call j])).value.Keeps ys := by
  induction turns generalizing s with
  | nil => simp [run, Keeps]
  | cons turn turns ih =>
    rw [value_run_cons, ih, contains_step, Keeps]
    constructor
    · rintro (⟨⟨j, m, rfl, hm⟩ | ⟨hheld, hkept⟩, hkeeps⟩ | ⟨xs, j, ys, rfl, hm, hkeeps⟩)
      · exact .inr ⟨[], j, turns, rfl, ⟨m, hm⟩, hkeeps⟩
      · exact .inl ⟨hheld, hkept, hkeeps⟩
      · exact .inr ⟨turn :: xs, j, ys, rfl, hm, hkeeps⟩
    · rintro (⟨hheld, hkept, hkeeps⟩ | ⟨xs, j, ys, hturns, ⟨m, hm⟩, hkeeps⟩)
      · exact .inl ⟨.inr ⟨hheld, hkept⟩, hkeeps⟩
      · cases xs with
        | nil =>
          obtain ⟨rfl, rfl⟩ := List.cons.inj hturns
          exact .inl ⟨.inl ⟨j, m, rfl, hm⟩, hkeeps⟩
        | cons x xs =>
          obtain ⟨rfl, rfl⟩ := List.cons.inj hturns
          exact .inr ⟨xs, j, ys, rfl, ⟨m, hm⟩, hkeeps⟩

/-! ### Stores of others -/

/-- A call that has not found a text yet cannot miss it while it is held. -/
theorem not_storing_run {turns : List Turn} {i : Nat} (hheld : s.cache.contains text = true)
    (hkeeps : s.Keeps turns) (hcall : s.calls i = .waiting text ∨ ∃ o, s.calls i = .done o)
    (m : Marker) : (s.run turns).value.calls i ≠ .storing text m := by
  induction turns generalizing s with
  | nil =>
    intro h
    have hstoring : s.calls i = .storing text m := h
    rcases hcall with hcall | ⟨o, hcall⟩
    · rw [hcall] at hstoring
      cases hstoring
    · rw [hcall] at hstoring
      cases hstoring
  | cons turn turns ih =>
    obtain ⟨hkept, hkeeps⟩ := hkeeps
    refine ih ((contains_step s turn text).mpr (.inr ⟨hheld, hkept⟩)) hkeeps ?_
    cases turn with
    | clear => exact hcall
    | call j =>
      by_cases hj : i = j
      · subst hj
        rw [calls_step_self]
        -- The text is found, or has been already.
        obtain ⟨n, hn⟩ := (contains_iff _ _).mp hheld
        rcases hcall with hcall | ⟨o, hcall⟩
        · rw [hcall, Call.value_advance_waiting, hn]
          exact .inr ⟨.ok n, rfl⟩
        · rw [hcall]
          exact .inr ⟨o, rfl⟩
      · rw [calls_step_of_ne s hj]
        exact hcall

/-- What is stored while a call has still to look it up is found by that call, if it is held
until then. -/
theorem not_storing_of_stored {i j : Nat} {n : Marker} (hi : s.calls i = .waiting text)
    (hj : s.calls j = .storing text n) {turns : List Turn}
    (hkeeps : (s.run [.call j]).value.Keeps turns) (m : Marker) :
    (s.run (.call j :: turns)).value.calls i ≠ .storing text m := by
  have hij : i ≠ j := by
    rintro rfl
    rw [hi] at hj
    cases hj
  have hheld : (s.step (.call j)).value.cache.contains text = true :=
    (contains_step s (.call j) text).mpr (.inl ⟨j, n, rfl, hj⟩)
  have hwaiting : (s.step (.call j)).value.calls i = .waiting text := by
    rw [calls_step_of_ne s hij, hi]
  rw [value_run_cons]
  exact not_storing_run hheld hkeeps (.inl hwaiting) m

/-- A text that a call is about to store is held exactly if another call has stored it since this
one missed it, and the cache has not been emptied after that. -/
theorem contains_iff_stored {turns : List Turn} {i : Nat} {m : Marker}
    (h : ((start texts).run turns).value.calls i = .storing text m) :
    ((start texts).run turns).value.cache.contains text = true ↔
      ∃ xs j ys n, turns = xs ++ .call j :: ys ∧ j ≠ i ∧
        ((start texts).run xs).value.calls i = .storing text m ∧
          ((start texts).run xs).value.calls j = .storing text n ∧
            ((start texts).run (xs ++ [.call j])).value.Keeps ys := by
  have hconsistent := fun turns => (consistent_start texts).run turns
  have hlast := (hconsistent turns).calls i
  rw [h] at hlast
  obtain ⟨rfl, hm⟩ := hlast
  have hempty : (start texts).cache.contains (texts i) = false := contains_empty _
  rw [contains_run, hempty]
  constructor
  · rintro (⟨hfalse, -⟩ | ⟨xs, j, ys, rfl, ⟨n, hn⟩, hkeeps⟩)
    · cases hfalse
    -- The call has to be about to store already: it is neither done nor has it missed the text
    -- since the other call stored it.
    have hleft := remaining_run ((start texts).run xs).value (.call j :: ys) i
    rw [← value_run_append, h] at hleft
    have hi := (hconsistent xs).calls i
    cases hcall : ((start texts).run xs).value.calls i with
    | waiting t =>
      rw [hcall] at hi
      obtain rfl : t = texts i := hi
      rw [value_run_append] at hkeeps h
      exact absurd h (not_storing_of_stored hcall hn hkeeps m)
    | storing t n' =>
      rw [hcall] at hi hleft
      obtain ⟨rfl, hn'⟩ := hi
      obtain rfl := Except.ok.inj (hn'.symm.trans hm)
      refine ⟨xs, j, ys, n, rfl, ?_, hcall, hn, hkeeps⟩
      rintro rfl
      simp [Call.remaining] at hleft
    | done o =>
      rw [hcall] at hleft
      simp [Call.remaining] at hleft
  · rintro ⟨xs, j, ys, n, rfl, -, -, hn, hkeeps⟩
    exact .inr ⟨xs, j, ys, rfl, ⟨n, hn⟩, hkeeps⟩

/-- Storing a marker neither adds a text nor drops one exactly if it is held already. -/
theorem contains_step_eq_iff {i : Nat} {m : Marker} (h : s.calls i = .storing text m) :
    (∀ other, (s.step (.call i)).value.cache.contains other = s.cache.contains other) ↔
      s.cache.contains text = true := by
  constructor
  · intro hsame
    rw [← hsame text, contains_step]
    exact .inl ⟨i, m, rfl, h⟩
  · intro hheld other
    have hkept : ¬ s.Empties (.call i) := by
      rintro ⟨t, n, ht, hnot, -⟩
      rw [h] at ht
      cases ht
      rw [hheld] at hnot
      cases hnot
    rw [Bool.eq_iff_iff, contains_step]
    constructor
    · rintro (⟨j, n, hj, hn⟩ | ⟨hother, -⟩)
      · cases hj
        rw [h] at hn
        cases hn
        exact hheld
      · exact hother
    · exact fun hother => .inr ⟨hother, hkept⟩

/-- A call that has its two turns one after the other is what the cache does for a single caller. -/
theorem run_call_call {i : Nat} (h : s.calls i = .waiting text) :
    (fun s' : Shared => (s'.calls i, s'.cache)) <$> s.run [.call i, .call i] =
      (fun (outcome, cache) => (Call.done outcome, cache)) <$> s.cache.parse text := by
  rw [← Call.advance_advance, ← h]
  simp [run, step]

/-- Calls that share a cache that is empty at first, in any order of their steps and with any number
of clearings: every marker that is held is the one its text writes, no more of them are held than
may be, and a call gives what its text writes, after two turns at the latest.  A call that has both
of them at once does what the cache does for a single caller.  If a call is about to store its
marker, this leaves the texts that are held as they are exactly if another call has stored the
marker in the meantime, be the cache full or not, and the cache has not been emptied since. -/
theorem run_start (texts : Nat → String) (turns : List Turn) :
    let s := ((start texts).run turns).value
    (∀ text m, s.cache.get? text = some m → (Marker.parse text).value = .ok m) ∧
      s.cache.size ≤ maxCachedMarkers ∧
      (∀ i outcome, s.calls i = .done outcome → outcome = (Marker.parse (texts i)).value) ∧
      (∀ i, 2 ≤ turns.count (.call i) → s.calls i = .done (Marker.parse (texts i)).value) ∧
      (∀ i text, s.calls i = .waiting text →
        (fun s' : Shared => (s'.calls i, s'.cache)) <$> s.run [.call i, .call i] =
          (fun (outcome, cache) => (Call.done outcome, cache)) <$> s.cache.parse text) ∧
      ∀ i text m, s.calls i = .storing text m →
        text = texts i ∧
          ((∀ other, (s.step (.call i)).value.cache.contains other = s.cache.contains other) ↔
            ∃ xs j ys n, turns = xs ++ .call j :: ys ∧ j ≠ i ∧
              ((start texts).run xs).value.calls i = .storing text m ∧
                ((start texts).run xs).value.calls j = .storing text n ∧
                  ((start texts).run (xs ++ [.call j])).value.Keeps ys) := by
  intro s
  have hconsistent : s.Consistent texts := (consistent_start texts).run turns
  have houtcome : ∀ i outcome, s.calls i = .done outcome →
      outcome = (Marker.parse (texts i)).value := by
    intro i outcome h
    have hi := hconsistent.calls i
    rw [h] at hi
    exact hi
  refine ⟨hconsistent.sound, hconsistent.size_le, houtcome, ?_, fun i text => run_call_call, ?_⟩
  · intro i hturns
    have hleft : (s.calls i).remaining ≤ 2 - turns.count (.call i) :=
      remaining_run (start texts) turns i
    cases hcall : s.calls i with
    | done outcome => rw [houtcome i outcome hcall]
    | _ =>
      rw [hcall] at hleft
      simp only [Call.remaining] at hleft
      omega
  · intro i text m h
    have hi := hconsistent.calls i
    rw [h] at hi
    exact ⟨hi.1, (contains_step_eq_iff h).trans (contains_iff_stored h)⟩

/-- What another call has stored in the meantime does not keep a store from adding a text: the cache
may have been cleared after that. -/
theorem store_after_clear :
    ¬ ∀ (texts : Nat → String) (turns : List Turn) (i : Nat) (text : String) (m : Marker),
      ((start texts).run turns).value.calls i = .storing text m →
        (∃ xs j ys n, turns = xs ++ .call j :: ys ∧ j ≠ i ∧
          ((start texts).run xs).value.calls i = .storing text m ∧
            ((start texts).run xs).value.calls j = .storing text n) →
          ∀ other, (((start texts).run turns).value.step (.call i)).value.cache.contains other =
            ((start texts).run turns).value.cache.contains other := by
  intro h
  let m := Marker.comparison ⟨"extra", .equal, "a"⟩
  have hitems : Item.ofText "extra == 'a'" =
      .ok [.group [.name "extra", .operator "==", .value "a"]] := by rfl
  have hparse : (Marker.parse "extra == 'a'").value = .ok m := Marker.parse_of_comparison hitems rfl
  have hmiss : ((Call.waiting "extra == 'a'").advance empty).value =
      (.storing "extra == 'a'" m, empty) := by
    rw [Call.value_advance_waiting, get?_empty, hparse]
  -- Both calls miss the text, the second stores its marker, and the cache is cleared.
  let texts : Nat → String := fun _ => "extra == 'a'"
  have hfirst : ((start texts).run [.call 0, .call 1]).value.calls 0 =
      .storing "extra == 'a'" m := by
    simp [run, step, start, texts, hmiss]
  have hsecond : ((start texts).run [.call 0, .call 1]).value.calls 1 =
      .storing "extra == 'a'" m := by
    simp [run, step, start, texts, hmiss]
  have hlast : ((start texts).run [.call 0, .call 1, .call 1, .clear]).value.calls 0 =
      .storing "extra == 'a'" m := by
    simp [run, step, start, texts, hmiss]
  have hsame := h texts _ 0 _ m hlast
    ⟨[.call 0, .call 1], 1, [.clear], m, rfl, by decide, hfirst, hsecond⟩
  have hheld := (contains_step_eq_iff hlast).mp hsame
  have hcleared : ((start texts).run [.call 0, .call 1, .call 1, .clear]).value.cache = empty := rfl
  rw [hcleared, contains_empty] at hheld
  cases hheld

end Shared

end EnvMarkers.ParseCache
