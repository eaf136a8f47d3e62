import EnvMarkers.Proofs.PartialEvaluation
import Mathlib.Tactic.SplitIfs

/-!
# Folded markers

A marker is folded if no truth value stands under a connective: it is a single truth value or has
none in it (`Marker.IsFolded`).  Reductions yield folded markers (`isFolded_reduceBy`), and what is
left of the comparisons are some of the open ones, in their order (`comparisons_reduceBy_sublist`).

So a reduction has an effect wherever there is something to fold or something to decide, and only
there (`reduceBy_eq_self_iff`).  A marker that is folded already is one that a reduction without
answers leaves as it is (`reduceBy_none_eq_self_iff`).  For the evaluation of markers the results
are put together in `evaluate_folded`.
-/

namespace EnvMarkers.Marker

/-- Whether no truth value occurs in a marker. -/
def literalFree : Marker → Bool
  | literal _ => false
  | comparison _ => true
  | join _ l r => l.literalFree && r.literalFree

/-- A marker in which no truth value stands under a connective. -/
def IsFolded (m : Marker) : Prop :=
  (∃ b, m = literal b) ∨ m.literalFree = true

theorem literal?_of_literalFree {m : Marker} (h : m.literalFree = true) : m.literal? = none := by
  cases m with
  | literal b => cases h
  | comparison c => rfl
  | join op l r => rfl

/-- Folding a join does not put a truth value under a connective. -/
theorem isFolded_fold (op : Connective) {l r : Marker} (hl : l.IsFolded) (hr : r.IsFolded) :
    (fold op l r).IsFolded := by
  -- What is left of a join with a literal side is that literal or the other side.
  rcases hl with ⟨a, rfl⟩ | hl
  · rw [fold_literal_left]
    split_ifs
    · exact .inl ⟨a, rfl⟩
    · exact hr
  rcases hr with ⟨b, rfl⟩ | hr
  · rw [fold_literal_right]
    split_ifs
    · exact .inl ⟨b, rfl⟩
    · exact .inr hl
  · rw [fold_of_open op (literal?_of_literalFree hl) (literal?_of_literalFree hr)]
    exact .inr (by rw [literalFree, hl, hr]; rfl)

/-- A reduction leaves no truth value under a connective. -/
theorem isFolded_reduceBy (decide? : Comparison → Option Bool) (m : Marker) :
    (m.reduceBy decide?).IsFolded := by
  induction m with
  | literal b => exact .inl ⟨b, rfl⟩
  | comparison c =>
    rw [reduceBy]
    cases decide? c with
    | some b => exact .inl ⟨b, rfl⟩
    | none => exact .inr rfl
  | join op l r ihl ihr => exact isFolded_fold op ihl ihr

/-- A reduction without answers does nothing to a marker without truth values. -/
theorem reduceBy_none_of_literalFree {m : Marker} (h : m.literalFree = true) :
    m.reduceBy (fun _ => none) = m := by
  induction m with
  | literal b => cases h
  | comparison c => rfl
  | join op l r ihl ihr =>
    rw [literalFree, Bool.and_eq_true] at h
    rw [reduceBy, ihl h.1, ihr h.2]
    exact fold_of_open op (literal?_of_literalFree h.1) (literal?_of_literalFree h.2)

/-! ### What is left of a marker -/

/-- Folding a join may drop the comparisons of a side, and keeps the order of the others. -/
theorem comparisons_fold_sublist (op : Connective) (l r : Marker) :
    (fold op l r).comparisons.Sublist (l.comparisons ++ r.comparisons) := by
  -- A literal side has no comparisons itself, whether it decides the join or not.
  obtain ⟨a, rfl⟩ | hl := l.eq_literal_or_open
  · rw [fold_literal_left]
    split_ifs
    · exact List.nil_sublist _
    · exact List.sublist_append_right _ _
  obtain ⟨b, rfl⟩ | hr := r.eq_literal_or_open
  · rw [fold_literal_right]
    split_ifs
    · exact List.nil_sublist _
    · exact List.sublist_append_left _ _
  · rw [fold_of_open op hl hr]
    exact List.Sublist.refl (l.comparisons ++ r.comparisons)

/-- A reduction leaves some of the open comparisons, in their order. -/
theorem comparisons_reduceBy_sublist (decide? : Comparison → Option Bool) (m : Marker) :
    (m.reduceBy decide?).comparisons.Sublist
      (m.comparisons.filter fun c => decide? c = none) := by
  induction m with
  | literal b => exact List.nil_sublist _
  | comparison c =>
    rw [reduceBy]
    cases hc : decide? c with
    | some b => exact List.nil_sublist _
    | none => simp [ofVerdict, comparisons, hc]
  | join op l r ihl ihr =>
    rw [reduceBy, comparisons, List.filter_append]
    exact (comparisons_fold_sublist op _ _).trans (ihl.append ihr)

/-- A reduction leaves alone the truth values, and the markers without truth values in which every
comparison is open. -/
theorem reduceBy_eq_self_iff {decide? : Comparison → Option Bool} {m : Marker} :
    m.reduceBy decide? = m ↔
      (∃ b, m = literal b) ∨ (m.literalFree = true ∧ ∀ c ∈ m.comparisons, decide? c = none) := by
  constructor
  · intro h
    have hopen : ∀ c ∈ m.comparisons, decide? c = none := by
      intro c hc
      rw [← h] at hc
      have hleft := (comparisons_reduceBy_sublist decide? m).subset hc
      simpa using (List.mem_filter.mp hleft).2
    have hfolded : m.IsFolded := h ▸ isFolded_reduceBy decide? m
    exact hfolded.imp_right fun hfree => ⟨hfree, hopen⟩
  · rintro (⟨b, rfl⟩ | ⟨hfree, hopen⟩)
    · rfl
    · rw [reduceBy_congr hopen, reduceBy_none_of_literalFree hfree]

/-- A reduction without answers changes exactly the markers that are not folded. -/
theorem reduceBy_none_eq_self_iff {m : Marker} :
    m.reduceBy (fun _ => none) = m ↔ m.IsFolded := by
  rw [reduceBy_eq_self_iff, IsFolded]
  simp only [implies_true, and_true]

/-- A marker is evaluated to a truth value, or to a marker without truth values whose comparisons
are some of those that the environment leaves open, in their order.  It is left as it is exactly if
it is such a marker itself: a truth value, or one without truth values and with open comparisons
alone. -/
theorem evaluate_folded (m : Marker) (env : Environment) :
    ((∃ b, (m.evaluate env).value = literal b) ∨ (m.evaluate env).value.literalFree = true) ∧
      (m.evaluate env).value.comparisons.Sublist
        (m.comparisons.filter fun c => env.answer c = none) ∧
      ((m.evaluate env).value = m ↔
        (∃ b, m = literal b) ∨
          (m.literalFree = true ∧ ∀ c ∈ m.comparisons, env.answer c = none)) := by
  rw [value_evaluate]
  exact ⟨isFolded_reduceBy env.answer m, comparisons_reduceBy_sublist env.answer m,
    reduceBy_eq_self_iff⟩

end EnvMarkers.Marker
