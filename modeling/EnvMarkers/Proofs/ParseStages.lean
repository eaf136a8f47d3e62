import EnvMarkers.Marker.Parse
import EnvMarkers.Proofs.Chain
import EnvMarkers.Proofs.Layout

/-!
# The stages of reading a marker

A marker text is read exactly if each of the three stages succeeds: its lexemes are read
(`Lexeme.scan`), they group to items (`Item.ofText_eq_ok_iff`), and these are accepted
(`Marker.parse_eq_ok_iff`).  The white space that is taken off the ends of the text beforehand and
the fault of a blank text of its own make no difference to that.
-/

namespace EnvMarkers

/-- Another wording of a fault does not change what succeeds. -/
theorem mapError_eq_ok_iff {ε ε' α : Type} {f : ε → ε'} {e : Except ε α} {x : α} :
    e.mapError f = .ok x ↔ e = .ok x := by
  cases e with
  | error fault => exact ⟨nofun, nofun⟩
  | ok y => exact ⟨fun h => congrArg _ (Except.ok.inj h), fun h => congrArg _ (Except.ok.inj h)⟩

/-- A sequence of two steps succeeds if both do. -/
theorem bind_eq_ok_iff {ε α β : Type} {e : Except ε α} {f : α → Except ε β} {y : β} :
    (e >>= f) = .ok y ↔ ∃ x, e = .ok x ∧ f x = .ok y := by
  cases e with
  | error fault => exact ⟨nofun, fun ⟨_, h, _⟩ => nomatch h⟩
  | ok x =>
    refine ⟨fun h => ⟨x, rfl, h⟩, ?_⟩
    rintro ⟨_, h, hy⟩
    obtain rfl := Except.ok.inj h
    exact hy

/-- The items of a text are those of its lexemes. -/
theorem Item.ofText_eq_ok_iff {s : String} {items : List Item} :
    Item.ofText s = .ok items ↔
      ∃ lexemes, Lexeme.scan s.toList = .ok lexemes ∧ Item.ofLexemes lexemes = .ok items := by
  rw [← Lexeme.scan_trimChars s.toList, Item.ofText]
  cases hcs : Text.trimChars s.toList with
  | nil =>
    -- A blank text has no lexemes, and no items either.
    constructor
    · intro h
      cases h
    · rintro ⟨lexemes, hlexemes, hitems⟩
      obtain rfl := Except.ok.inj hlexemes
      cases hitems
  | cons c cs =>
    simp only [List.isEmpty_cons, Bool.false_eq_true, if_false, mapError_eq_ok_iff]
    exact bind_eq_ok_iff

/-- A text is read as a marker exactly if its items are accepted as that marker. -/
theorem Marker.parse_eq_ok_iff {s : String} {m : Marker} :
    (Marker.parse s).value = .ok m ↔
      ∃ items, Item.ofText s = .ok items ∧
        Assembly.accepted (Assembly.ofSequence 0 items) = some m := by
  rw [Marker.parse]
  cases Item.ofText s with
  | error fault => exact ⟨nofun, fun ⟨_, h, _⟩ => nomatch h⟩
  | ok items =>
    simp only [Logged.value_map, Marker.ofItems, mapError_eq_ok_iff, ← Assembly.accepted_eq_some]
    refine ⟨fun h => ⟨items, rfl, h⟩, ?_⟩
    rintro ⟨_, h, haccepted⟩
    obtain rfl := Except.ok.inj h
    exact haccepted

end EnvMarkers
