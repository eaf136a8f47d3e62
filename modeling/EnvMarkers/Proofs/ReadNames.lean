import EnvMarkers.Proofs.CacheTransparency
import EnvMarkers.Proofs.CandidateSets
import EnvMarkers.Proofs.ItemComparisons
import EnvMarkers.Proofs.Specifiers

/-!
# The names that are read

A marker is evaluated alike in two environments that give the names it mentions the same candidates
(`Marker.evaluate_eq_of_mentions`), so it does not matter what happens to any other name
(`Marker.evaluate_eq_of_not_mentions`).

What a text writes may mention more than its variables: of a membership test with the value first,
the candidates of the value are looked up.  No candidate decides such a test, so the variables of
the text are all that counts for the outcome (`Marker.value_evaluate_eq_of_names`).  Only what is
reported about open comparisons depends on the value being a bound name.
-/

namespace EnvMarkers

namespace Comparison

theorem check_congr {c : Comparison} {env other : Environment}
    (h : env.get? c.lhs = other.get? c.lhs) : c.check env = c.check other := by
  rw [check, check, h]

/-- Candidates say nothing about a membership test, whatever they are. -/
theorem verdict_membership {c : Comparison} (h : c.comparator.isMembership = true)
    (candidates : List Candidate) : c.verdict candidates = none :=
  verdict_eq_none_iff.mpr fun x _ => x.compare_membership h c.rhs

end Comparison

/-- No environment decides a membership test. -/
theorem Environment.answer_membership (env : Environment) {c : Comparison}
    (h : c.comparator.isMembership = true) : env.answer c = none := by
  rw [answer_eq, Option.bind_eq_none_iff]
  exact fun candidates _ => c.verdict_membership h candidates

namespace Marker

variable {m : Marker} {env other : Environment}

/-! ### Mentioned names -/

/-- Two environments in which the comparisons of a marker are checked alike are the same to it, and
the same is reported. -/
theorem evaluate_congr (h : ∀ c ∈ m.comparisons, c.check env = c.check other) :
    m.evaluate env = m.evaluate other := by
  rw [evaluate_eq, evaluate_eq]
  congr 1
  · exact reduceBy_congr fun c hc => by rw [h c hc]
  · exact List.flatMap_congr fun c hc => by rw [h c hc]

theorem evaluate_eq_of_mentions
    (h : ∀ key, m.mentions key = true → env.get? key = other.get? key) :
    m.evaluate env = m.evaluate other := by
  refine evaluate_congr fun c hc => Comparison.check_congr (h c.lhs ?_)
  exact (mentions_iff m c.lhs).mpr ⟨c, hc, rfl⟩

/-- What happens to a name that is not mentioned does not matter. -/
theorem evaluate_eq_of_not_mentions {key : String} (hkey : m.mentions key = false)
    (h : ∀ k, k ≠ key → env.get? k = other.get? k) : m.evaluate env = m.evaluate other := by
  refine evaluate_eq_of_mentions fun k hk => h k ?_
  rintro rfl
  rw [hkey] at hk
  cases hk

/-! ### Variables of a text -/

/-- The left side of a comparison in a text is one of the variables of the text, unless the
comparison is a membership test. -/
theorem lhs_mem_names_or_isMembership {s : String} {items : List Item}
    (hitems : Item.ofText s = .ok items) (hm : (Marker.parse s).value = .ok m) {c : Comparison}
    (hc : c ∈ m.comparisons) :
    c.lhs ∈ Item.sequenceNames items ∨ c.comparator.isMembership = true := by
  obtain ⟨items', hitems', haccepted⟩ := parse_eq_ok_iff.mp hm
  obtain rfl := Except.ok.inj (hitems.symm.trans hitems')
  have hmem := List.mem_map_of_mem (f := some) hc
  rw [← Assembly.comparisons_of_accepted haccepted] at hmem
  obtain ⟨t, ht, htriple⟩ := List.mem_map.mp hmem
  rcases Comparison.ofItems?_sides htriple with ⟨hlhs, -⟩ | ⟨hmembership, -⟩
  · exact .inl ((Assembly.mem_names_of_accepted haccepted c.lhs).mpr ⟨t, ht, .inl hlhs⟩)
  · exact .inr hmembership

/-- Two environments that give the variables of a text the same candidates leave the same of the
marker that it writes. -/
theorem value_evaluate_eq_of_names {s : String} (hm : (Marker.parse s).value = .ok m)
    (h : ∀ items, Item.ofText s = .ok items →
      ∀ key ∈ Item.sequenceNames items, env.get? key = other.get? key) :
    (m.evaluate env).value = (m.evaluate other).value := by
  obtain ⟨items, hitems, -⟩ := parse_eq_ok_iff.mp hm
  rw [value_evaluate, value_evaluate]
  refine reduceBy_congr fun c hc => ?_
  rcases lhs_mem_names_or_isMembership hitems hm hc with hname | hmembership
  · rw [Environment.answer_eq, Environment.answer_eq, h items hitems c.lhs hname]
  · rw [env.answer_membership hmembership, other.answer_membership hmembership]

end Marker

/-- A text is evaluated to the same outcome in two environments if the marker that it writes is. -/
theorem ParseCache.Evaluates.unique {text : String} {env other : Environment}
    {outcome outcome' : Except MarkerFault Marker} (h : Evaluates text env outcome)
    (h' : Evaluates text other outcome')
    (hm : ∀ m, (Marker.parse text).value = .ok m →
      (m.evaluate env).value = (m.evaluate other).value) : outcome = outcome' := by
  by_cases hblank : ∀ c ∈ text.toList, Text.isBlank c = true
  · rw [h.1 hblank, h'.1 hblank]
  · have hletter : ∃ c ∈ text.toList, Text.isBlank c = false := by simpa using hblank
    rw [h.2 hletter, h'.2 hletter]
    cases hparse : (Marker.parse text).value with
    | error fault => rfl
    | ok m => exact congrArg Except.ok (hm m hparse)

namespace Marker

/-- A marker is evaluated alike, and the same is reported, in environments that agree on the names
it mentions; so nothing changes when a name that it does not mention is bound, is given another
candidate or is made free.  A text is evaluated to the same outcome in environments that agree on
the variables in it, whatever the cache has been asked for before. -/
theorem evaluate_reads_names :
    (∀ (m : Marker) (env other : Environment),
      (∀ key, m.mentions key = true → env.get? key = other.get? key) →
        m.evaluate env = m.evaluate other) ∧
    (∀ (m : Marker) (env : Environment) (key : String), m.mentions key = false →
      (∀ candidates, m.evaluate (env.insert key candidates) = m.evaluate env) ∧
        (∀ candidate, m.evaluate (env.push key candidate) = m.evaluate env) ∧
          m.evaluate (env.remove key).2 = m.evaluate env) ∧
    ∀ (text : String) (env other : Environment),
      (∀ items, Item.ofText text = .ok items →
        ∀ key ∈ Item.sequenceNames items, env.get? key = other.get? key) →
      ∀ before before' : List ParseCache.Request,
        ((ParseCache.empty.serveAll before).value.2.evaluate text env).value.1 =
          ((ParseCache.empty.serveAll before').value.2.evaluate text other).value.1 := by
  refine ⟨fun m env other => evaluate_eq_of_mentions, ?_, ?_⟩
  · intro m env key hkey
    refine ⟨fun candidates => ?_, fun candidate => ?_, ?_⟩
    · refine evaluate_eq_of_not_mentions hkey fun k hk => ?_
      rw [Environment.get?_insert, if_neg hk]
    · refine evaluate_eq_of_not_mentions hkey fun k hk => ?_
      rw [Environment.get?_push, if_neg hk]
    · refine evaluate_eq_of_not_mentions hkey fun k hk => ?_
      show (env.erase key).get? k = _
      rw [Environment.get?_erase, if_neg hk]
  · intro text env other h before before'
    have hsound := (ParseCache.sound_empty.serveAll before).2
    have hsound' := (ParseCache.sound_empty.serveAll before').2
    exact (hsound.evaluate text env).1.unique (hsound'.evaluate text other).1
      fun m hm => value_evaluate_eq_of_names hm h

/-- The value of a membership test happens to be a name, which only one of two environments binds.
Both give the same candidates to `extra`, the other variable of the text. -/
theorem evaluate_reads_names_value_first :
    let free := Environment.empty.insert "extra" [.exact "test"]
    let bound := free.insert "os_name" [.exact "posix"]
    let s := "'os_name' in sys_platform and extra != 'test'"
    let m := comparison ⟨"os_name", .within, "sys_platform"⟩
    let k := comparison ⟨"extra", .notEqual, "test"⟩
    m.mentions "os_name" = true ∧ bound.get? "os_name" ≠ free.get? "os_name" ∧
      k.evaluate bound = k.evaluate free ∧ m.mentions "extra" = false ∧
      m.evaluate (bound.push "extra" (.exact "dev")) = m.evaluate bound ∧
      (ParseCache.empty.evaluate s bound).value.1 =
        (ParseCache.empty.evaluate s free).value.1 := by
  intro free bound s m k
  have hmentions : m.mentions "extra" = false := by simp [m]
  have hbound : bound.get? "os_name" ≠ free.get? "os_name" := by
    simp [bound, free, Environment.get?_insert]
  have hitems : Item.ofText "'os_name' in sys_platform and extra != 'test'" = .ok
      [.group [.value "os_name", .operator "in", .name "sys_platform"], .keyword .conj,
        .group [.name "extra", .operator "!=", .value "test"]] := by rfl
  refine ⟨by simp [m], hbound, ?_, hmentions, ?_, ?_⟩
  · refine evaluate_reads_names.1 k bound free fun key hkey => ?_
    obtain rfl : "extra" = key := by simpa [k] using hkey
    simp [bound, Environment.get?_insert]
  · exact (evaluate_reads_names.2.1 m bound "extra" hmentions).2.1 _
  · refine evaluate_reads_names.2.2 s bound free (fun items h key hkey => ?_) [] []
    obtain rfl := Except.ok.inj (hitems.symm.trans h)
    have hkeys : key = "sys_platform" ∨ key = "extra" := by
      simpa [Item.sequenceNames, Item.names] using hkey
    rcases hkeys with rfl | rfl
    · simp [bound, Environment.get?_insert]
    · simp [bound, Environment.get?_insert]

end Marker

end EnvMarkers
