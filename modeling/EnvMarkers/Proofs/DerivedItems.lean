import EnvMarkers.Proofs.Grammar
import EnvMarkers.Proofs.ScannedLayout
import EnvMarkers.Proofs.SinglePass

/-!
# The items of derived sequences

What the grammar of markers derives has groups and connectives as its items, in turns, and so it is
assembled as a chain, however short it is (`Lexeme.Derives.ofSequence_eq`).  Its groups are at most
one level deeper than its parentheses may be (`Lexeme.Derives.sequenceNesting_le`).  A derivation
inside some parentheses is one inside more of them, under a bound that is larger by as many
(`Lexeme.Derives.shift`).

So a text is read as a marker exactly if its items are a chain that makes up the marker
(`Marker.parse_eq_ok_iff_chain`), and the items of two texts with a connective between them are
those of both (`Item.ofText_join`).
-/

namespace EnvMarkers

/-- A group in a chain is an operand. -/
theorem Assembly.chainOperand_group (depth : Nat) (whole : List Item) (sum run : Option Marker)
    (items rest : List Item) : chainOperand depth whole sum run (.group items :: rest) =
      ofItem depth (.group items) >>= fun operand =>
        chainConnective depth whole sum (joinRun run operand) rest := by
  rw [chainOperand]
  intro _ h
  cases h

namespace Lexeme

/-! ### Shape -/

theorem Derives.eq_group {bound depth : Nat} {ls : List Lexeme} {items : List Item}
    (h : Derives bound .atom depth ls items) : ∃ inner, items = [.group inner] := by
  cases h with
  | comparison => exact ⟨_, rfl⟩
  | paren => exact ⟨_, rfl⟩

/-- A derived sequence of at most three items is a group, or two of them with a connective between
them. -/
theorem Derives.shape {bound depth : Nat} {ls : List Lexeme} {items : List Item}
    (h : Derives bound .marker depth ls items) :
    (∃ inner, items = [.group inner]) ∨
      (∃ left op right, items = [.group left, .keyword op, .group right]) ∨
      items.length > 3 := by
  cases h with
  | single h => exact .inl h.eq_group
  | join hleft op hright =>
    obtain ⟨right, rfl⟩ := hright.eq_group
    cases hleft with
    | single h =>
      obtain ⟨left, rfl⟩ := h.eq_group
      exact .inr (.inl ⟨left, op, right, rfl⟩)
    | join hleft' op' hright' =>
      obtain ⟨right', rfl⟩ := hright'.eq_group
      refine .inr (.inr ?_)
      simp only [List.length_append, List.length_cons, List.length_nil]
      omega

theorem Derives.ne_comparison {bound depth : Nat} {ls : List Lexeme} {items : List Item}
    (h : Derives bound .marker depth ls items) (lhs : Item) (operator : String) (rhs : Item) :
    items ≠ [lhs, .operator operator, rhs] := by
  rintro rfl
  obtain ⟨inner, hinner⟩ | ⟨left, op, right, hthree⟩ | hlong := h.shape
  · cases hinner
  · cases hthree
  · simp at hlong

/-- A derived sequence is assembled as a chain, however short it is. -/
theorem Derives.ofSequence_eq {bound depth : Nat} {ls : List Lexeme} {items : List Item}
    (h : Derives bound .marker depth ls items) (level : Nat) :
    Assembly.ofSequence level items = Assembly.chainOperand level items none none items := by
  obtain ⟨inner, rfl⟩ | ⟨left, op, right, rfl⟩ | hlong := h.shape
  · rw [Assembly.ofSequence, if_neg (by simp), Assembly.ofShort, Assembly.chainOperand_group]
    exact (bind_pure _).symm
  · rw [Assembly.ofSequence, if_neg (by simp), Assembly.ofShort, Assembly.chainOperand_group]
    cases op <;> rfl
  · rw [Assembly.ofSequence, if_pos hlong]

theorem Derives.accepted_eq {bound depth : Nat} {ls : List Lexeme} {items : List Item}
    (h : Derives bound .marker depth ls items) (level : Nat) :
    Assembly.accepted (Assembly.ofSequence level items) =
      Assembly.operandChain (Assembly.operand level) none none items := by
  rw [h.ofSequence_eq, Assembly.accepted_chainOperand]

/-! ### Depth -/

/-- A derivation stays one if more parentheses stand around it and the bound is larger by as
many. -/
theorem Derives.shift {bound : Nat} {phrase : Phrase} {depth : Nat} {ls : List Lexeme}
    {items : List Item} (h : Derives bound phrase depth ls items) (more : Nat) :
    Derives (bound + more) phrase (depth + more) ls items := by
  induction h with
  | comparison hleft hcs hright => exact .comparison hleft hcs hright
  | @paren depth ls items hdepth h ih =>
    have hinner : depth + 1 + more = depth + more + 1 := by omega
    rw [hinner] at ih
    exact .paren (by omega) ih
  | single h ih => exact .single ih
  | join hleft op hright ihleft ihright => exact .join ihleft op ihright

/-- The sides of a comparison are no groups. -/
theorem IsOperand.nesting_eq_zero {l : Lexeme} {item : Item} (h : IsOperand l item) :
    item.nesting = 0 := by
  cases h with
  | quoted text => exact Item.nesting_eq_zero nofun
  | word hname => exact Item.nesting_eq_zero nofun

/-- The groups of a derived sequence are its parentheses and, inside of them, its comparisons. -/
theorem Derives.sequenceNesting_le {bound : Nat} {phrase : Phrase} {depth : Nat} {ls : List Lexeme}
    {items : List Item} (h : Derives bound phrase depth ls items) (hdepth : depth ≤ bound) :
    depth + Item.sequenceNesting items ≤ bound + 1 := by
  induction h with
  | comparison hleft hcs hright =>
    simp only [Item.sequenceNesting, Item.nesting, hleft.nesting_eq_zero, hright.nesting_eq_zero]
    omega
  | @paren depth ls items hlt h ih =>
    have hinner := ih hlt
    simp only [Item.sequenceNesting, Item.nesting]
    omega
  | single h ih => exact ih hdepth
  | join hleft op hright ihleft ihright =>
    have hleftRoom := ihleft hdepth
    have hrightRoom := ihright hdepth
    rw [Item.sequenceNesting_join]
    omega

end Lexeme

/-! ### Items of texts -/

open Lexeme

/-- The items of a text are those that the grammar derives from a lexeme sequence of which the text
is a layout. -/
theorem Item.ofText_eq_ok_iff_derives {s : String} {items : List Item} :
    Item.ofText s = .ok items ↔
      ∃ ls, Layout ls s.toList ∧ Derives maxParenDepth .marker 0 ls items := by
  simp only [Item.ofText_eq_ok_iff, scan_eq_ok_iff, Item.ofLexemes_eq_ok_iff]

/-- A text is read as a marker exactly if its items are a chain that makes up the marker. -/
theorem Marker.parse_eq_ok_iff_chain {s : String} {m : Marker} :
    (Marker.parse s).value = .ok m ↔ ∃ items, Item.ofText s = .ok items ∧
      Assembly.operandChain (Assembly.operand 0) none none items = some m := by
  rw [parse_eq_ok_iff]
  refine exists_congr fun items => and_congr_right fun hitems => ?_
  obtain ⟨ls, -, hderives⟩ := Item.ofText_eq_ok_iff_derives.mp hitems
  rw [hderives.accepted_eq]

/-- A text with a single comparison for its items is read as that comparison. -/
theorem Marker.parse_of_comparison {s operator : String} {lhs rhs : Item} {c : Comparison}
    (h : Item.ofText s = .ok [.group [lhs, .operator operator, rhs]])
    (hc : Comparison.ofItems? lhs operator rhs = some c) :
    (Marker.parse s).value = .ok (.comparison c) := by
  refine parse_eq_ok_iff_chain.mpr ⟨_, h, ?_⟩
  rw [Assembly.operandChain_eq_shortChain _ (by simp), Assembly.shortChain, Assembly.operand_group,
    if_pos (by decide), Assembly.accepted_ofSequence_comparison, hc]
  rfl

/-- The items of two texts with a connective between them are those of both with the connective
between them. -/
theorem Item.ofText_join {s₁ s₂ : String} {items₁ items₂ : List Item}
    (h₁ : Item.ofText s₁ = .ok items₁) (op : Connective) (h₂ : Item.ofText s₂ = .ok items₂) :
    Item.ofText (s₁ ++ " " ++ op.text ++ " " ++ s₂) =
      .ok (items₁ ++ .keyword op :: items₂) := by
  obtain ⟨ls₁, hlayout₁, hderives₁⟩ := Item.ofText_eq_ok_iff_derives.mp h₁
  obtain ⟨ls₂, hlayout₂, hderives₂⟩ := Item.ofText_eq_ok_iff_derives.mp h₂
  refine Item.ofText_eq_ok_iff_derives.mpr ⟨_, ?_, hderives₁.append op hderives₂⟩
  have hlayout := hlayout₁.append_space (op.layout_text.append_space hlayout₂)
  simpa using hlayout

end EnvMarkers
