import EnvMarkers.Proofs.DerivedItems

/-!
# Texts in parentheses

A marker text in parentheses is read as the same marker, and two of them with a connective between
them are read as the join of their markers, if there is room for the additional parentheses
(`Marker.parse_parentheses`).  What stands in the texts makes no difference, be it parentheses in
quotes, white space at the ends or chains of any length.

All three stages of reading are local in this sense.  The text in parentheses is a layout of the
lexemes in parentheses, which the grammar derives as an atom (`Marker.ofText_paren`), and the group
that the atom makes up is the operand that its items are (`Marker.operand_group_of_chain`).
-/

namespace EnvMarkers

/-- How deep the parentheses of a text nest; those in quoted texts do not count. -/
def Lexeme.textNesting (s : String) : Nat :=
  match scan s.toList with
  | .ok ls => nesting ls
  | .error _ => 0

/-- What is accepted is accepted at any depth at which there is room for its groups. -/
theorem Assembly.accepted_ofSequence_of_room {items : List Item} {m : Marker}
    (h : accepted (ofSequence 0 items) = some m) {depth : Nat}
    (hroom : depth + Item.sequenceNesting items ≤ maxGroupDepth) :
    accepted (ofSequence depth items) = some m := by
  have hdepth : depth ≤ maxGroupDepth := by omega
  have hzero : 0 ≤ maxGroupDepth := Nat.zero_le _
  rw [accepted_ofSequence_eq_some_iff hzero fun item _ => operand_eq_some_iff hzero item] at h
  rw [accepted_ofSequence_eq_some_iff hdepth fun item _ => operand_eq_some_iff hdepth item]
  exact ⟨h.1, hroom⟩

namespace Marker

open Lexeme Assembly

/-- The items of a text are derived under a lower bound, if its parentheses are not nested as deep
as they may be. -/
theorem derives_of_textNesting {s : String} {items : List Item} (h : Item.ofText s = .ok items)
    (hdepth : textNesting s ≤ maxParenDepth - 1) :
    ∃ ls, Layout ls s.toList ∧ Derives (maxParenDepth - 1) .marker 0 ls items := by
  obtain ⟨ls, hlayout, hderives⟩ := Item.ofText_eq_ok_iff_derives.mp h
  have htext : textNesting s = nesting ls := by
    rw [textNesting, scan_of_layout hlayout]
  rw [htext] at hdepth
  exact ⟨ls, hlayout, derives_iff_nesting_le.mpr ⟨⟨maxParenDepth, hderives⟩, hdepth⟩⟩

/-- The items of a text in parentheses are those of the text in a group. -/
theorem ofText_paren {s : String} {items : List Item} (h : Item.ofText s = .ok items)
    (hdepth : textNesting s ≤ maxParenDepth - 1) :
    Item.ofText ("(" ++ s ++ ")") = .ok [.group items] := by
  obtain ⟨ls, hlayout, hderives⟩ := derives_of_textNesting h hdepth
  refine Item.ofText_eq_ok_iff_derives.mpr ⟨_, ?_, .single (.paren (by decide) (hderives.shift 1))⟩
  have hparen : ("(" ++ s ++ ")").toList = '(' :: (s.toList ++ [')']) := by simp
  rw [hparen]
  exact hlayout.paren

/-- The group of the items of a text is the operand that the text is read as. -/
theorem operand_group_of_chain {s : String} {items : List Item} {m : Marker}
    (h : Item.ofText s = .ok items) (hdepth : textNesting s ≤ maxParenDepth - 1)
    (hchain : operandChain (operand 0) none none items = some m) :
    operand 0 (.group items) = some m := by
  obtain ⟨ls, -, hderives⟩ := derives_of_textNesting h hdepth
  -- One more group fits around those in the items.
  have hnesting := hderives.sequenceNesting_le (Nat.zero_le _)
  have hroom : 1 + Item.sequenceNesting items ≤ maxGroupDepth := by
    rw [maxParenDepth] at hnesting
    rw [maxGroupDepth]
    omega
  have haccepted : accepted (ofSequence 0 items) = some m := by rw [hderives.accepted_eq, hchain]
  rw [operand_group, if_pos (by decide)]
  exact accepted_ofSequence_of_room haccepted hroom

/-- A marker text in parentheses is read as its marker, and two of them around a connective as the
join of theirs, unless the parentheses in them are nested as deep as they may be already. -/
theorem parse_parentheses {s₁ s₂ : String} {m₁ m₂ : Marker}
    (h₁ : (Marker.parse s₁).value = .ok m₁) (h₂ : (Marker.parse s₂).value = .ok m₂)
    (hdepth₁ : textNesting s₁ ≤ maxParenDepth - 1) (hdepth₂ : textNesting s₂ ≤ maxParenDepth - 1) :
    (Marker.parse ("(" ++ s₁ ++ ")")).value = .ok m₁ ∧
      (Marker.parse ("(" ++ s₁ ++ ") and (" ++ s₂ ++ ")")).value = .ok (.join .conj m₁ m₂) ∧
      (Marker.parse ("(" ++ s₁ ++ ") or (" ++ s₂ ++ ")")).value = .ok (.join .disj m₁ m₂) := by
  obtain ⟨items₁, hitems₁, hchain₁⟩ := parse_eq_ok_iff_chain.mp h₁
  obtain ⟨items₂, hitems₂, hchain₂⟩ := parse_eq_ok_iff_chain.mp h₂
  have hoperand₁ := operand_group_of_chain hitems₁ hdepth₁ hchain₁
  have hoperand₂ := operand_group_of_chain hitems₂ hdepth₂ hchain₂
  have hparen₁ := ofText_paren hitems₁ hdepth₁
  have hparen₂ := ofText_paren hitems₂ hdepth₂
  have hjoin : ∀ (op : Connective) (s : String),
      s = "(" ++ s₁ ++ ")" ++ " " ++ op.text ++ " " ++ ("(" ++ s₂ ++ ")") →
        (Marker.parse s).value = .ok (.join op m₁ m₂) := by
    rintro op _ rfl
    refine parse_eq_ok_iff_chain.mpr ⟨_, Item.ofText_join hparen₁ op hparen₂, ?_⟩
    rw [List.singleton_append, operandChain_eq_shortChain _ (by simp), shortChain, hoperand₁,
      hoperand₂]
    rfl
  refine ⟨parse_eq_ok_iff_chain.mpr ⟨_, hparen₁, ?_⟩, hjoin .conj _ ?_, hjoin .disj _ ?_⟩
  · rw [operandChain_eq_shortChain _ (by simp), shortChain, hoperand₁]
  · rw [← String.toList_inj]
    simp [Connective.text]
  · rw [← String.toList_inj]
    simp [Connective.text]

/-- Parentheses and another quote in quoted texts, white space in front, and a text with parentheses
of its own. -/
theorem parse_parentheses_quoted :
    let s₁ := " ')' in os_name"
    let s₂ := "extra == '(' or (extra != \"it's\")"
    let m₁ := comparison ⟨")", .within, "os_name"⟩
    let m₂ := join .disj (comparison ⟨"extra", .equal, "("⟩)
      (comparison ⟨"extra", .notEqual, "it's"⟩)
    textNesting s₁ = 0 ∧ textNesting s₂ = 1 ∧
      (Marker.parse ("(" ++ s₁ ++ ")")).value = .ok m₁ ∧
        (Marker.parse ("(" ++ s₁ ++ ") and (" ++ s₂ ++ ")")).value = .ok (join .conj m₁ m₂) := by
  intro s₁ s₂ m₁ m₂
  have hitems₁ : Item.ofText " ')' in os_name" =
      .ok [.group [.value ")", .operator "in", .name "os_name"]] := by rfl
  have hitems₂ : Item.ofText "extra == '(' or (extra != \"it's\")" =
      .ok [.group [.name "extra", .operator "==", .value "("], .keyword .disj,
        .group [.group [.name "extra", .operator "!=", .value "it's"]]] := by rfl
  have h₁ : (Marker.parse s₁).value = .ok m₁ := parse_of_comparison hitems₁ rfl
  have h₂ : (Marker.parse s₂).value = .ok m₂ := by
    refine parse_eq_ok_iff.mpr ⟨_, hitems₂, ?_⟩
    simp (disch := simp) only [accepted_ofSequence, accepted_ofSequence_comparison, operand_group,
      operandChain, connectiveChain, maxGroupDepth]
    rfl
  have hdepth₁ : textNesting " ')' in os_name" = 0 := by rfl
  have hdepth₂ : textNesting "extra == '(' or (extra != \"it's\")" = 1 := by rfl
  have hroom₁ : textNesting s₁ ≤ maxParenDepth - 1 := hdepth₁ ▸ by decide
  have hroom₂ : textNesting s₂ ≤ maxParenDepth - 1 := hdepth₂ ▸ by decide
  obtain ⟨hsingle, hconj, -⟩ := parse_parentheses h₁ h₂ hroom₁ hroom₂
  exact ⟨hdepth₁, hdepth₂, hsingle, hconj⟩

end Marker

end EnvMarkers
