import EnvMarkers.Proofs.CacheStates
import EnvMarkers.Proofs.OperandKinds

/-!
# Reports of faults in items

A sequence of items, or a single item, is either accepted without a report or rejected with a single
one, which has the reason and the fragment that the message is made of (`Marker.ReportsOnce`).  A
text is reported on exactly if it is split into items and these are rejected
(`Marker.rejected_mem_events_parse`), and a cache that is asked for it keeps what it holds and
reports nothing of its own (`ParseCache.parse_of_shape`, `ParseCache.evaluate_of_shape`).
`Marker.rejections_reported` puts these together.
-/

namespace EnvMarkers

open Assembly

/-! ### Items -/

namespace Marker

/-- Whether nothing is reported about items that are accepted, and a single rejection about items
that are not, with the reason and the fragment in their message. -/
def ReportsOnce (outcome : Logged (Except ShapeFault Marker)) : Prop :=
  (∀ m, outcome.value = .ok m → outcome.events = []) ∧
    ∀ fault, outcome.value = .error fault → outcome.events = [.rejected fault] ∧
      (MarkerFault.shape fault).message = fault.reason ++ ": " ++ fault.fragment

theorem reportsOnce_of_reportsFault {a : Assembly Marker} (h : a.ReportsFault) :
    ReportsOnce a.run := by
  unfold Assembly.ReportsFault at h
  constructor
  · intro m hvalue
    rw [h, hvalue]
  · intro fault hvalue
    refine ⟨?_, rfl⟩
    rw [h, hvalue]

/-! ### Texts -/

/-- A text has a fault of shape exactly if it is split into items that have it. -/
theorem value_parse_eq_shape_iff {text : String} {fault : ShapeFault} :
    (Marker.parse text).value = .error (.shape fault) ↔
      ∃ items, Item.ofText text = .ok items ∧ (ofItems items).value = .error fault := by
  cases htext : Item.ofText text with
  | error other =>
    -- The fault is another one, and there are no items.
    have hvalue : (Marker.parse text).value = .error other := by
      rw [Marker.parse, htext]
      rfl
    rw [hvalue]
    constructor
    · intro h
      obtain rfl := Except.error.inj h
      exact absurd htext (Item.ofText_ne_shape text fault)
    · rintro ⟨items, hitems, -⟩
      cases hitems
  | ok items =>
    rw [parse_eq_error_iff htext]
    constructor
    · rintro ⟨f, hf, hshape⟩
      obtain rfl := MarkerFault.shape.inj hshape
      exact ⟨items, rfl, hf⟩
    · rintro ⟨items', hitems, hfault⟩
      obtain rfl := Except.ok.inj hitems
      exact ⟨fault, hfault, rfl⟩

theorem events_parse_of_shape {text : String} {fault : ShapeFault}
    (h : (Marker.parse text).value = .error (.shape fault)) :
    (Marker.parse text).events = [.rejected fault] := by
  rw [events_parse, h]

/-- A fault of shape is reported of a text exactly if the text has it. -/
theorem rejected_mem_events_parse {text : String} {fault : ShapeFault} :
    .rejected fault ∈ (Marker.parse text).events ↔
      (Marker.parse text).value = .error (.shape fault) := by
  constructor
  · intro h
    rw [events_parse] at h
    split at h
    · next f hvalue =>
      obtain rfl := Event.rejected.inj (List.mem_singleton.mp h)
      exact hvalue
    · cases h
  · intro h
    rw [events_parse_of_shape h]
    exact List.mem_singleton_self _

end Marker

/-! ### Caches -/

namespace ParseCache

variable {cache : ParseCache} {text : String} {fault : ShapeFault}

/-- A cache that fails to give a marker keeps what it holds, and reports what reading the text
does. -/
theorem parse_of_error {fault : MarkerFault} (h : (cache.parse text).value.1 = .error fault) :
    (Marker.parse text).value = .error fault ∧
      cache.parse text = ⟨(.error fault, cache), (Marker.parse text).events⟩ := by
  by_cases hheld : text ∈ cache.texts
  · obtain ⟨m, hparse⟩ := parse_of_mem hheld
    rw [hparse] at h
    cases h
  cases hvalue : (Marker.parse text).value with
  | error other =>
    rw [parse_of_fault hheld hvalue] at h ⊢
    obtain rfl := Except.error.inj h
    exact ⟨rfl, rfl⟩
  | ok m =>
    rw [parse_of_ok hheld hvalue] at h
    cases h

theorem parse_of_shape (h : (cache.parse text).value.1 = .error (.shape fault)) :
    cache.parse text = ⟨(.error (.shape fault), cache), [.rejected fault]⟩ := by
  obtain ⟨hvalue, hparse⟩ := parse_of_error h
  rw [hparse, Marker.events_parse_of_shape hvalue]

theorem evaluate_of_shape {env : Environment}
    (h : (cache.evaluate text env).value.1 = .error (.shape fault)) :
    cache.evaluate text env = ⟨(.error (.shape fault), cache), [.rejected fault]⟩ := by
  unfold evaluate at h ⊢
  by_cases hblank : Text.isBlankText text = true
  · rw [if_pos hblank] at h
    cases h
  rw [if_neg hblank] at h ⊢
  have hparsed : (cache.parse text).value.1 = .error (.shape fault) := by
    rw [Logged.value_bind] at h
    cases hvalue : (cache.parse text).value.1 with
    | error other =>
      simp only [hvalue] at h
      exact h
    | ok m =>
      -- A marker that has been parsed is evaluated without a fault.
      simp only [hvalue] at h
      cases h
  rw [parse_of_shape hparsed]
  rfl

end ParseCache

namespace Marker

/-- Items are accepted without a report, or rejected with a single one that has the reason and the
fragment in their message.  A text is reported on exactly if it is split into items that are
rejected.  A cache that gives back such a fault, for the marker or for its evaluation, keeps what it
holds, and nothing but the rejection is reported. -/
theorem rejections_reported :
    (∀ items, ReportsOnce (ofItems items)) ∧ (∀ item, ReportsOnce (ofItem item)) ∧
      (∀ text fault, .rejected fault ∈ (Marker.parse text).events ↔
        ∃ items, Item.ofText text = .ok items ∧ (ofItems items).value = .error fault) ∧
      ∀ (cache : ParseCache) text fault,
        ((cache.parse text).value.1 = .error (.shape fault) →
          cache.parse text = ⟨(.error (.shape fault), cache), [.rejected fault]⟩) ∧
        ∀ env, (cache.evaluate text env).value.1 = .error (.shape fault) →
          cache.evaluate text env = ⟨(.error (.shape fault), cache), [.rejected fault]⟩ := by
  refine ⟨fun items => ?_, fun item => ?_, fun text fault => ?_, fun cache text fault => ?_⟩
  · exact reportsOnce_of_reportsFault (reportsFault_ofSequence 0 items)
  · exact reportsOnce_of_reportsFault (reportsFault_ofItem 0 item)
  · rw [rejected_mem_events_parse, value_parse_eq_shape_iff]
  · exact ⟨ParseCache.parse_of_shape, fun env => ParseCache.evaluate_of_shape⟩

/-- Two values make no comparison.  Although the comparison stands in parentheses and another
misfit follows, there is a single report, also by a cache. -/
theorem rejections_reported_nested :
    let text := "os_name == 'nt' or ('a' == 'b') or 'c' == 'd'"
    let fault := ShapeFault.badOperands (.value "a") "==" (.value "b")
    (Marker.parse text).events = [.rejected fault] ∧
      fault.fragment = "\"a\" == \"b\"" ∧
      ParseCache.empty.parse text = ⟨(.error (.shape fault), .empty), [.rejected fault]⟩ ∧
      ParseCache.empty.evaluate text .empty =
        ⟨(.error (.shape fault), .empty), [.rejected fault]⟩ := by
  intro text fault
  have hitems : Item.ofText "os_name == 'nt' or ('a' == 'b') or 'c' == 'd'" =
      .ok [.group [.name "os_name", .operator "==", .value "nt"], .keyword .disj,
        .group [.group [.value "a", .operator "==", .value "b"]], .keyword .disj,
        .group [.value "c", .operator "==", .value "d"]] := by rfl
  have hfault : (ofItems [.group [.name "os_name", .operator "==", .value "nt"], .keyword .disj,
        .group [.group [.value "a", .operator "==", .value "b"]], .keyword .disj,
        .group [.value "c", .operator "==", .value "d"]]).value = .error fault := by rfl
  obtain ⟨-, -, hreport, hcache⟩ := rejections_reported
  have hvalue : (Marker.parse text).value = .error (.shape fault) :=
    rejected_mem_events_parse.mp ((hreport text fault).mpr ⟨_, hitems, hfault⟩)
  have hparse : (ParseCache.empty.parse text).value.1 = .error (.shape fault) := by
    rw [ParseCache.value_parse, ParseCache.get?_empty, hvalue]
  obtain ⟨hkept, hkeptEvaluate⟩ := hcache .empty text fault
  have hblank : ¬ Text.isBlankText text = true := by decide
  have hevaluate : (ParseCache.empty.evaluate text .empty).value.1 = .error (.shape fault) := by
    rw [ParseCache.evaluate, if_neg hblank, Logged.value_bind, hkept hparse]
    rfl
  refine ⟨events_parse_of_shape hvalue, ?_, hkept hparse, hkeptEvaluate .empty hevaluate⟩
  simp [fault, ShapeFault.fragment, Item.text]

end Marker

end EnvMarkers
