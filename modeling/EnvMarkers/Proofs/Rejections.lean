import EnvMarkers.Marker.Parse
import EnvMarkers.Proofs.SinglePass

/-!
# Reports of rejections

Items are accepted without a word, and if they are rejected, the fault is reported once
(`Assembly.reportsFault_ofSequence`): it is found in one place, however deep, and on its way out
nothing is added to it and nothing more is looked at.  So a text is read without a report unless it
is split into items that are no marker (`Marker.events_parse`).
-/

namespace EnvMarkers

namespace Assembly

variable {α β : Type}

/-- Whether an assembly reports its fault if it is rejected, and nothing otherwise. -/
def ReportsFault (a : Assembly α) : Prop :=
  a.run.events =
    match a.run.value with
    | .ok _ => []
    | .error fault => [.rejected fault]

theorem reportsFault_pure (x : α) : ReportsFault (pure x) :=
  rfl

theorem reportsFault_reject (fault : ShapeFault) : ReportsFault (reject fault : Assembly α) :=
  rfl

/-- After a first step that is rejected the second one is not taken. -/
theorem ReportsFault.bind {a : Assembly α} {f : α → Assembly β} (ha : a.ReportsFault)
    (hf : ∀ x, (f x).ReportsFault) : (a >>= f).ReportsFault := by
  unfold ReportsFault at ha ⊢
  rw [ExceptT.run_bind, Logged.events_bind, Logged.value_bind, ha]
  cases a.run.value with
  | error fault => rfl
  | ok x => exact hf x

theorem reportsFault_comparison (lhs : Item) (operator : String) (rhs : Item) :
    (comparison lhs operator rhs).ReportsFault := by
  unfold comparison
  split
  · exact reportsFault_reject _
  split
  · exact reportsFault_pure _
  · split_ifs
    · exact reportsFault_pure _
    · exact reportsFault_reject _
  · exact reportsFault_reject _

/-- A chain reports its fault if each of its operands does. -/
theorem reportsFault_chain {depth : Nat} (whole : List Item) {items : List Item}
    (h : ∀ item ∈ items, (ofItem depth item).ReportsFault) :
    (∀ sum run, (chainOperand depth whole sum run items).ReportsFault) ∧
      ∀ sum run, (chainConnective depth whole sum run items).ReportsFault := by
  induction items with
  | nil =>
    constructor
    · intro sum run
      rw [chainOperand]
      exact reportsFault_reject _
    · intro sum run
      rw [chainConnective]
      exact reportsFault_pure _
  | cons item rest ih =>
    obtain ⟨hitem, hrest⟩ := List.forall_mem_cons.mp h
    obtain ⟨hoperand, hconnective⟩ := ih hrest
    constructor
    · intro sum run
      unfold chainOperand
      split
      · exact reportsFault_reject _
      · exact reportsFault_reject _
      · next heq =>
        obtain ⟨rfl, rfl⟩ := List.cons.inj heq
        exact hitem.bind fun operand => hconnective sum (joinRun run operand)
    · intro sum run
      unfold chainConnective
      split
      · exact reportsFault_pure _
      · next heq =>
        obtain ⟨-, rfl⟩ := List.cons.inj heq
        exact hoperand sum (some run)
      · next heq =>
        obtain ⟨-, rfl⟩ := List.cons.inj heq
        exact hoperand (some (joinSum sum run)) none
      · exact reportsFault_reject _

/-- A sequence reports its fault if each of its operands does. -/
theorem reportsFault_ofSequence_of_operands {depth : Nat} {items : List Item}
    (h : ∀ item ∈ items, (ofItem depth item).ReportsFault) :
    (ofSequence depth items).ReportsFault := by
  unfold ofSequence
  split_ifs
  · exact (reportsFault_chain items h).1 none none
  unfold ofShort
  split
  · exact reportsFault_reject _
  · exact h _ (List.mem_singleton_self _)
  · have hleft := h _ List.mem_cons_self
    have hright := h _ (List.mem_cons_of_mem _ (List.mem_cons_of_mem _ List.mem_cons_self))
    exact hleft.bind fun l => hright.bind fun r => reportsFault_pure _
  · exact reportsFault_comparison _ _ _
  · exact reportsFault_reject _

theorem reportsFault_ofItem (depth : Nat) (item : Item) : (ofItem depth item).ReportsFault := by
  induction item using Item.groupInduction generalizing depth with
  | group items ih =>
    rw [ofItem_group]
    split_ifs
    · exact reportsFault_reject _
    · exact reportsFault_ofSequence_of_operands fun item hitem => ih item hitem (depth + 1)
  | other item hother =>
    rw [ofItem]
    · exact reportsFault_reject _
    · exact hother

theorem reportsFault_ofSequence (depth : Nat) (items : List Item) :
    (ofSequence depth items).ReportsFault :=
  reportsFault_ofSequence_of_operands fun item _ => reportsFault_ofItem depth item

end Assembly

/-- A text that is not split into items is rejected for another reason than their shape. -/
theorem Item.ofText_ne_shape (text : String) (fault : ShapeFault) :
    Item.ofText text ≠ .error (.shape fault) := by
  unfold Item.ofText
  simp only
  split_ifs
  · simp
  · cases Lexeme.scan (Text.trimChars text.toList) >>= Item.ofLexemes with
    | error _ => simp [Except.mapError]
    | ok _ => simp [Except.mapError]

/-- Reading a text reports the fault of its items, if they have one, and nothing else. -/
theorem Marker.events_parse (text : String) :
    (Marker.parse text).events =
      match (Marker.parse text).value with
      | .error (.shape fault) => [.rejected fault]
      | _ => [] := by
  rw [Marker.parse]
  cases htext : Item.ofText text with
  | error fault =>
    cases fault with
    | shape fault => exact absurd htext (Item.ofText_ne_shape text fault)
    | _ => rfl
  | ok items =>
    have hitems := Assembly.reportsFault_ofSequence 0 items
    unfold Assembly.ReportsFault at hitems
    simp only [Logged.events_map, Logged.value_map, Marker.ofItems, hitems]
    cases (Assembly.ofSequence 0 items).run.value <;> rfl

end EnvMarkers
