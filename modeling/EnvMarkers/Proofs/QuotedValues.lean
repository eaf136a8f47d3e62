import EnvMarkers.Proofs.LeafOrder

/-!
# Layouts and quoted values

A text is read as a lexeme sequence exactly if it is a layout of it: every lexeme is written as it
is spelled, and white space may be left out except between two words or two operators
(`Lexeme.scan_layouts`).

A value among the items of a text comes from a quoted lexeme (`Lexeme.Derives.quoted_mem`), and a
layout has some quote around this that does not occur in it.  So no value of a text has both kinds
of quotes in it.
-/

namespace EnvMarkers

namespace Lexeme

open Item

/-! ### Where values come from -/

theorem IsOperand.eq_quoted {l : Lexeme} {text : String} (h : IsOperand l (.value text)) :
    l = .quoted text := by
  cases h with
  | quoted => rfl

/-- The sides of a comparison are leaves themselves. -/
theorem IsOperand.leaves_eq {l : Lexeme} {item : Item} (h : IsOperand l item) :
    item.leaves = [item] := by
  cases h with
  | quoted text =>
    rw [leaves]
    rintro items ⟨⟩
  | word hname =>
    rw [leaves]
    rintro items ⟨⟩

/-- A value among the leaves of a derived sequence is one of its quoted lexemes. -/
theorem Derives.quoted_mem {bound depth : Nat} {phrase : Phrase} {ls : List Lexeme}
    {items : List Item} (h : Derives bound phrase depth ls items) {text : String}
    (htext : .value text ∈ sequenceLeaves items) : .quoted text ∈ ls := by
  induction h with
  | @comparison depth left right cs lhs rhs operator hleft hcs hright =>
    have hleaves : sequenceLeaves [.group [lhs, .operator operator, rhs]] =
        [lhs, .operator operator, rhs] := by
      simp [sequenceLeaves, leaves, hleft.leaves_eq, hright.leaves_eq]
    rw [hleaves] at htext
    -- The value is one of the two sides.
    rcases List.mem_cons.mp htext with rfl | htext
    · rw [hleft.eq_quoted]
      exact List.mem_append_left _ (List.mem_singleton_self _)
    rcases List.mem_cons.mp htext with hoperator | htext
    · cases hoperator
    · obtain rfl := List.mem_singleton.mp htext
      rw [hright.eq_quoted]
      simp
  | @paren depth ls items hdepth h ih =>
    rw [sequenceLeaves, leaves, sequenceLeaves, List.append_nil] at htext
    exact List.mem_cons_of_mem _ (List.mem_append_left _ (ih htext))
  | single h ih => exact ih htext
  | @join depth ls ms left right hleft op hright ihleft ihright =>
    rw [sequenceLeaves_append, sequenceLeaves, List.mem_append, List.mem_append] at htext
    rcases htext with htext | htext | htext
    · exact List.mem_append_left _ (ihleft htext)
    · simp [leaves] at htext
    · exact List.mem_append_right _ (List.mem_append_right _ (ihright htext))

/-- A quoted text lacks the quote that it is written with. -/
theorem Spells.not_both_quotes {text : String} {cs : List Char} (h : Spells (.quoted text) cs) :
    '\'' ∉ text.toList ∨ '"' ∉ text.toList := by
  cases h with
  | quoted hmark htext =>
    rcases hmark with rfl | rfl
    · exact .inl htext
    · exact .inr htext

/-! ### Layouts -/

/-- The texts that are read as a lexeme sequence are exactly its layouts, and each value among the
items of a text lacks one of the two quotes. -/
theorem scan_layouts :
    (∀ cs ls, scan cs = .ok ls ↔ Layout ls cs) ∧
      ∀ text items, Item.ofText text = .ok items → ∀ value, .value value ∈ sequenceLeaves items →
        '\'' ∉ value.toList ∨ '"' ∉ value.toList := by
  refine ⟨fun cs ls => scan_eq_ok_iff, ?_⟩
  intro text items hitems value hvalue
  obtain ⟨ls, hlayout, hderives⟩ := Item.ofText_eq_ok_iff_derives.mp hitems
  obtain ⟨cs, hspells⟩ := hlayout.exists_spells _ (hderives.quoted_mem hvalue)
  exact hspells.not_both_quotes

/-- Two words are the only neighbours that are kept apart here; without the space they would be one
word, and an operator that goes on with another character is none. -/
theorem scan_layouts_tight :
    let text := "extra!=\"it's\"and('a\"b'in os_name)"
    let ls := [.word "extra", .symbol "!=", .quoted "it's", .word "and", .openParen,
      .quoted "a\"b", .word "in", .word "os_name", .closeParen]
    let items := [.group [.name "extra", .operator "!=", .value "it's"], .keyword .conj,
      .group [.group [.value "a\"b", .operator "in", .name "os_name"]]]
    scan text.toList = .ok ls ∧ Layout ls text.toList ∧
      ¬ Layout [.word "in", .word "os_name"] "inos_name".toList ∧
      (∀ ls, ¬ Layout ls "extra ==! 'a'".toList) ∧
      Item.ofText text = .ok items ∧ .value "it's" ∈ sequenceLeaves items ∧
      ('\'' ∉ "it's".toList ∨ '"' ∉ "it's".toList) := by
  intro text ls items
  obtain ⟨hlayouts, hvalues⟩ := scan_layouts
  have hscan : scan "extra!=\"it's\"and('a\"b'in os_name)".toList =
      .ok [.word "extra", .symbol "!=", .quoted "it's", .word "and", .openParen,
        .quoted "a\"b", .word "in", .word "os_name", .closeParen] := by rfl
  have hitems : Item.ofText "extra!=\"it's\"and('a\"b'in os_name)" =
      .ok [.group [.name "extra", .operator "!=", .value "it's"], .keyword .conj,
        .group [.group [.value "a\"b", .operator "in", .name "os_name"]]] := by rfl
  have hone : scan "inos_name".toList = .ok [.word "inos_name"] := by rfl
  have hfault : scan "extra ==! 'a'".toList = .error (.invalidOperator "==!") := by rfl
  have hvalue : .value "it's" ∈ sequenceLeaves items := by simp [items, sequenceLeaves, leaves]
  refine ⟨hscan, (hlayouts _ _).mp hscan, ?_, ?_, hitems, hvalue,
    hvalues text items hitems _ hvalue⟩
  · intro hlayout
    rw [(hlayouts _ _).mpr hlayout] at hone
    simp at hone
  · intro ls hlayout
    rw [(hlayouts _ _).mpr hlayout] at hfault
    cases hfault

end Lexeme

end EnvMarkers
