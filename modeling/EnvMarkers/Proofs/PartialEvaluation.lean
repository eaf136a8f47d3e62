import EnvMarkers.Marker.Evaluation

/-!
# What partial evaluation means

A marker has a truth value under every assignment of truth values to its comparisons
(`Marker.truth`), and a value in three-valued logic where some of its comparisons are open
(`Marker.kleene`, by the strong Kleene tables).  Evaluation in an environment keeps the first under
every assignment that goes along with the environment, and arrives at a literal exactly where the
second is defined (`evaluate_truth_and_kleene`).

Both are facts about `Marker.fold`: it keeps truth (`truth_fold`), and the literals it yields are
those of the Kleene tables (`literal?_fold`).  `Marker.reduceBy` carries them to whole markers.
-/

namespace EnvMarkers

/-! ### The tables of the connectives -/

namespace Connective

/-- The truth value of a join whose sides have the given truth values. -/
def apply : Connective → Bool → Bool → Bool
  | conj, left, right => left && right
  | disj, left, right => left || right

/-- The strong Kleene tables, in which `none` is an open value. -/
def kleene : Connective → Option Bool → Option Bool → Option Bool
  | conj, some false, _ => some false
  | conj, _, some false => some false
  | conj, some true, some true => some true
  | conj, _, _ => none
  | disj, some true, _ => some true
  | disj, _, some true => some true
  | disj, some false, some false => some false
  | disj, _, _ => none

/-- The truth value of one side that decides a join, whatever the other side. -/
def absorbing : Connective → Bool
  | conj => false
  | disj => true

theorem kleene_some_left (op : Connective) (b : Bool) (right : Option Bool) :
    op.kleene (some b) right = if b = op.absorbing then some b else right := by
  cases op <;> cases b <;> rcases right with _ | _ | _ <;> rfl

theorem kleene_some_right (op : Connective) (left : Option Bool) (b : Bool) :
    op.kleene left (some b) = if b = op.absorbing then some b else left := by
  cases op <;> cases b <;> rcases left with _ | _ | _ <;> rfl

theorem kleene_none (op : Connective) : op.kleene none none = none := by
  cases op <;> rfl

end Connective

/-! ### What an environment says about a comparison -/

namespace Environment

/-- The truth value of a comparison, if the environment decides it. -/
def answer (env : Environment) (c : Comparison) : Option Bool :=
  (c.check env).value

/-- An assignment that gives every comparison the value the environment decides it to have. -/
def Admits (env : Environment) (s : Comparison → Bool) : Prop :=
  ∀ c b, env.answer c = some b → s c = b

/-- Open comparisons may be given any value. -/
theorem admits_getD (env : Environment) (default : Comparison → Bool) :
    env.Admits fun c => (env.answer c).getD (default c) := by
  intro c b h
  simp only [h, Option.getD_some]

end Environment

namespace Marker

/-! ### The two values of a marker -/

/-- The truth value of a marker under an assignment of truth values to comparisons. -/
def truth (s : Comparison → Bool) : Marker → Bool
  | literal b => b
  | comparison c => s c
  | join op l r => op.apply (l.truth s) (r.truth s)

/-- The three-valued value of a marker whose comparisons have the given three-valued values. -/
def kleene (v : Comparison → Option Bool) : Marker → Option Bool
  | literal b => some b
  | comparison c => v c
  | join op l r => op.kleene (l.kleene v) (r.kleene v)

theorem literal?_eq_some {m : Marker} {b : Bool} : m.literal? = some b ↔ m = literal b := by
  cases m <;> simp [literal?]

/-- The answer of the evaluator is the reduction by what the environment decides. -/
theorem value_evaluate (m : Marker) (env : Environment) :
    (m.evaluate env).value = m.reduceBy env.answer := by
  rw [evaluate_eq]
  rfl

/-! ### Folding a join -/

/-- A marker is a literal or has none to show. -/
theorem eq_literal_or_open (m : Marker) : (∃ b, m = literal b) ∨ m.literal? = none := by
  cases m with
  | literal b => exact .inl ⟨b, rfl⟩
  | comparison c => exact .inr rfl
  | join op l r => exact .inr rfl

/-- A literal on the left decides the join or leaves it to the right side. -/
theorem fold_literal_left (op : Connective) (b : Bool) (r : Marker) :
    fold op (literal b) r = if b = op.absorbing then literal b else r := by
  cases op <;> cases b <;> rfl

/-- A literal on the right decides the join or leaves it to the left side. -/
theorem fold_literal_right (op : Connective) (l : Marker) (b : Bool) :
    fold op l (literal b) = if b = op.absorbing then literal b else l := by
  -- The evaluator looks at the left side first.
  obtain ⟨a, rfl⟩ | hl := l.eq_literal_or_open
  · cases op <;> cases a <;> cases b <;> rfl
  · cases op <;> cases b <;> simp only [fold, hl] <;> rfl

/-- Two sides that are no literals stay as they are. -/
theorem fold_of_open (op : Connective) {l r : Marker} (hl : l.literal? = none)
    (hr : r.literal? = none) : fold op l r = join op l r := by
  cases op <;> simp only [fold, hl, hr]

/-- Folding keeps truth under every assignment. -/
theorem truth_fold (s : Comparison → Bool) (op : Connective) (l r : Marker) :
    (fold op l r).truth s = op.apply (l.truth s) (r.truth s) := by
  -- A literal side decides the join or is its neutral element; without one nothing is folded.
  obtain ⟨a, rfl⟩ | hl := l.eq_literal_or_open
  · rw [fold_literal_left]
    cases op <;> cases a <;> simp [truth, Connective.apply, Connective.absorbing]
  obtain ⟨b, rfl⟩ | hr := r.eq_literal_or_open
  · rw [fold_literal_right]
    cases op <;> cases b <;> simp [truth, Connective.apply, Connective.absorbing]
  · rw [fold_of_open op hl hr, truth]

/-- The literals that folding yields are those of the Kleene tables. -/
theorem literal?_fold (op : Connective) (l r : Marker) :
    (fold op l r).literal? = op.kleene l.literal? r.literal? := by
  obtain ⟨a, rfl⟩ | hl := l.eq_literal_or_open
  · rw [fold_literal_left, apply_ite literal?, literal?, op.kleene_some_left]
  obtain ⟨b, rfl⟩ | hr := r.eq_literal_or_open
  · rw [fold_literal_right, apply_ite literal?, literal?, op.kleene_some_right]
  · rw [fold_of_open op hl hr, hl, hr, op.kleene_none]
    rfl

/-! ### Whole markers -/

/-- A reduction keeps truth under every assignment that goes along with what it decides. -/
theorem truth_reduceBy {decide? : Comparison → Option Bool} {s : Comparison → Bool}
    (hs : ∀ c b, decide? c = some b → s c = b) (m : Marker) :
    (m.reduceBy decide?).truth s = m.truth s := by
  induction m with
  | literal b => rfl
  | comparison c =>
    rw [reduceBy]
    cases hc : decide? c with
    | none => rfl
    | some b =>
      -- The assignment gives the comparison the value that has been put in its place.
      exact (hs c b hc).symm
  | join op l r ihl ihr => rw [reduceBy, truth_fold, ihl, ihr, truth]

/-- A reduction asks about the comparisons of the marker and nothing else. -/
theorem reduceBy_congr {first second : Comparison → Option Bool} {m : Marker}
    (h : ∀ c ∈ m.comparisons, first c = second c) : m.reduceBy first = m.reduceBy second := by
  induction m with
  | literal b => rfl
  | comparison c => rw [reduceBy, reduceBy, h c (List.mem_singleton_self c)]
  | join op l r ihl ihr =>
    rw [comparisons, List.forall_mem_append] at h
    rw [reduceBy, reduceBy, ihl h.1, ihr h.2]

/-- A reduction is a literal exactly where the three-valued value is defined. -/
theorem literal?_reduceBy (decide? : Comparison → Option Bool) (m : Marker) :
    (m.reduceBy decide?).literal? = m.kleene decide? := by
  induction m with
  | literal b => rfl
  | comparison c =>
    rw [reduceBy, kleene]
    cases decide? c <;> rfl
  | join op l r ihl ihr => rw [reduceBy, literal?_fold, ihl, ihr, kleene]

/-- What evaluation makes of a marker is decided by its three-valued value. -/
theorem literal?_evaluate (m : Marker) (env : Environment) :
    (m.evaluate env).value.literal? = m.kleene env.answer := by
  rw [value_evaluate, literal?_reduceBy]

/-- Evaluation keeps the truth value of a marker under every assignment that the environment
admits, and its result is a literal exactly where the comparisons that the environment decides
determine the three-valued value of the marker. -/
theorem evaluate_truth_and_kleene (m : Marker) (env : Environment) :
    (∀ s, env.Admits s → (m.evaluate env).value.truth s = m.truth s) ∧
      ∀ b, (m.evaluate env).value = literal b ↔ m.kleene env.answer = some b := by
  rw [value_evaluate]
  constructor
  · intro s hs
    exact truth_reduceBy hs m
  · intro b
    rw [← literal?_eq_some, literal?_reduceBy]

/-- An open comparison beside one that holds: the disjunction is decided, the conjunction is not,
and both keep their truth value where the open one is taken to hold. -/
theorem evaluate_truth_and_kleene_open_beside_true :
    let env := Environment.empty.insert "os_name" [.exact "nt"]
    let known : Marker := comparison ⟨"os_name", .equal, "nt"⟩
    let free : Marker := comparison ⟨"extra", .equal, "test"⟩
    let s : Comparison → Bool := fun c => (env.answer c).getD true
    env.Admits s ∧
      ((join .conj free known).evaluate env).value.truth s = (join .conj free known).truth s ∧
      ((join .disj free known).evaluate env).value = literal true ∧
      ¬ ((join .conj free known).evaluate env).value = literal true := by
  intro env known free s
  have hs : env.Admits s := env.admits_getD fun _ => true
  have hknown : env.answer ⟨"os_name", .equal, "nt"⟩ = some true := by
    simp [env, Environment.answer, Comparison.check, Environment.get?_insert, Comparison.verdict,
      Candidate.compare, Candidate.decideEquality]
  have hfree : env.answer ⟨"extra", .equal, "test"⟩ = none := by
    simp [env, Environment.answer, Comparison.check, Environment.get?_insert]
  refine ⟨hs, (evaluate_truth_and_kleene _ env).1 s hs, ?_, ?_⟩
  · rw [(evaluate_truth_and_kleene _ env).2]
    simp only [known, free, kleene, hknown, hfree]
    rfl
  · rw [(evaluate_truth_and_kleene _ env).2]
    simp only [known, free, kleene, hknown, hfree]
    decide

end Marker

end EnvMarkers
