import EnvMarkers.Proofs.Specifiers
import EnvMarkers.Proofs.StagedEvaluation

/-!
# The dual of a marker

Exchanging `and` with `or`, `True` with `False` and `==` with `!=` turns a marker into its dual,
which is evaluated to the dual of what the marker is evaluated to (`Marker.evaluate_dual`).  This
holds where no name has two candidates: with two of them `==` and `!=` may both hold, each by
another one.

The table of `and` mirrors that of `or` (`Marker.fold_dual`), and a candidate of any kind decides
`!=` exactly if it decides `==`, and the other way (`Candidate.compare_notEqual`).  For a version
this comes from the form of specifiers: the comparator ends at the blank behind it, so that the same
texts are read after both comparators (`Specifier.read?_comparator`).
-/

namespace EnvMarkers

/-! ### Comparisons -/

/-- A candidate decides `!=` exactly if it decides `==`, and the other way. -/
theorem Candidate.compare_notEqual (candidate : Candidate) (rhs : String) :
    candidate.compare .notEqual rhs = (candidate.compare .equal rhs).map not := by
  cases candidate with
  | exact s => rfl
  | pattern p => rfl
  | version v =>
    show (Specifier.read? _).map (·.contains v) = ((Specifier.read? _).map (·.contains v)).map not
    rw [Specifier.read?_equality (.inr rfl), Specifier.read?_equality (.inl rfl), Option.map_map,
      Option.map_map, Option.map_map]
    exact congrArg (Option.map · _) (funext fun pattern => Specifier.contains_notEqual pattern v)

/-- Equality in place of its negation and the other way; other comparators stay. -/
def Comparator.dual : Comparator → Comparator
  | equal => notEqual
  | notEqual => equal
  | comparator => comparator

/-- Each connective in place of the other. -/
def Connective.dual : Connective → Connective
  | conj => disj
  | disj => conj

namespace Comparison

/-- The comparison with the dual comparator. -/
def dual (c : Comparison) : Comparison :=
  { c with comparator := c.comparator.dual }

/-- Whether two sides are compared for equality or for its negation. -/
def IsEquality (c : Comparison) : Prop :=
  c.comparator = .equal ∨ c.comparator = .notEqual

theorem compare_dual {c : Comparison} (h : c.IsEquality) (candidate : Candidate) :
    candidate.compare c.dual.comparator c.rhs =
      (candidate.compare c.comparator c.rhs).map not := by
  rcases h with h | h
  · rw [dual, h, Comparator.dual, candidate.compare_notEqual]
  · rw [dual, h, Comparator.dual, candidate.compare_notEqual, Option.map_map,
      Bool.involutive_not.comp_self, Option.map_id]
    rfl

theorem verdict_singleton (c : Comparison) (candidate : Candidate) :
    c.verdict [candidate] = candidate.compare c.comparator c.rhs := by
  rw [verdict, List.filterMap_cons, List.filterMap_nil]
  cases candidate.compare c.comparator c.rhs <;> rfl

/-- At most one candidate says the opposite about the dual of a comparison. -/
theorem verdict_dual {c : Comparison} (h : c.IsEquality) {candidates : List Candidate}
    (hsingle : candidates.length ≤ 1) :
    c.dual.verdict candidates = (c.verdict candidates).map not := by
  match candidates with
  | [] => rfl
  | [candidate] => rw [verdict_singleton, verdict_singleton, ← compare_dual h]; rfl

/-- One of two candidates may decide that a comparison holds, the other that its dual does. -/
example :
    verdict ⟨"extra", .equal, "dev"⟩ [.exact "dev", .exact "test"] = some true ∧
      verdict ⟨"extra", .notEqual, "dev"⟩ [.exact "dev", .exact "test"] = some true := by
  decide

end Comparison

namespace Environment

/-- Whether each name has at most one candidate. -/
def IsSingle (env : Environment) : Prop :=
  ∀ key candidates, env.get? key = some candidates → candidates.length ≤ 1

theorem IsSingle.answer_dual {env : Environment} (henv : env.IsSingle) {c : Comparison}
    (h : c.IsEquality) : env.answer c.dual = (env.answer c).map not := by
  rw [answer_eq, answer_eq]
  show (env.get? c.lhs).bind c.dual.verdict = _
  cases hget : env.get? c.lhs with
  | none => rfl
  | some candidates => exact Comparison.verdict_dual h (henv _ _ hget)

end Environment

/-! ### Markers -/

namespace Marker

/-- The marker with the opposite truth values, the dual comparisons and the dual connectives. -/
def dual : Marker → Marker
  | literal b => literal !b
  | comparison c => comparison c.dual
  | join op l r => join op.dual l.dual r.dual

theorem literal?_dual (m : Marker) : m.dual.literal? = m.literal?.map not := by
  cases m <;> rfl

/-- The table of each connective is the mirror image of that of the other. -/
theorem fold_dual (op : Connective) (l r : Marker) :
    fold op.dual l.dual r.dual = (fold op l r).dual := by
  have habsorbing : op.dual.absorbing = !op.absorbing := by cases op <;> rfl
  obtain ⟨a, rfl⟩ | hl := l.eq_literal_or_open
  · rw [fold_literal_left, dual, fold_literal_left, habsorbing, apply_ite dual]
    simp [dual]
  obtain ⟨b, rfl⟩ | hr := r.eq_literal_or_open
  · rw [fold_literal_right, dual, fold_literal_right, habsorbing, apply_ite dual]
    simp [dual]
  · have hl' : l.dual.literal? = none := by rw [literal?_dual, hl]; rfl
    have hr' : r.dual.literal? = none := by rw [literal?_dual, hr]; rfl
    rw [fold_of_open op hl hr, fold_of_open op.dual hl' hr', dual]

/-- Reduction goes through the dual if the dual comparisons are decided the other way. -/
theorem reduceBy_dual {decide? : Comparison → Option Bool} {m : Marker}
    (h : ∀ c ∈ m.comparisons, decide? c.dual = (decide? c).map not) :
    m.dual.reduceBy decide? = (m.reduceBy decide?).dual := by
  induction m with
  | literal b => rfl
  | comparison c =>
    rw [dual, reduceBy, reduceBy, h c (List.mem_singleton_self c)]
    cases decide? c <;> rfl
  | join op l r ihl ihr =>
    rw [comparisons, List.forall_mem_append] at h
    rw [dual, reduceBy, reduceBy, ihl h.1, ihr h.2, fold_dual]

/-- In an environment where no name has two candidates, the dual of a marker with comparisons for
equality alone is evaluated to the dual of what the marker is evaluated to.  For a single comparison
this says that a candidate decides `!=` exactly if it decides `==`, and the other way. -/
theorem evaluate_dual :
    (∀ (m : Marker) (env : Environment), (∀ c ∈ m.comparisons, c.IsEquality) → env.IsSingle →
      (m.dual.evaluate env).value = (m.evaluate env).value.dual) ∧
    ∀ (candidate : Candidate) (rhs : String),
      candidate.compare .notEqual rhs = (candidate.compare .equal rhs).map not := by
  refine ⟨fun m env hm henv => ?_, Candidate.compare_notEqual⟩
  rw [value_evaluate, value_evaluate]
  exact reduceBy_dual fun c hc => henv.answer_dual (hm c hc)

/-- A version that a beginning of a release matches, a text that is not the given one, and a name
without candidates. -/
theorem evaluate_dual_mixed :
    let env := (Environment.empty.insert "python_version"
      [.version ⟨0, [3, 8, 1], none, none, none, []⟩]).insert "os_name" [.exact "nt"]
    let m := join .disj (join .conj (comparison ⟨"python_version", .equal, "3.*"⟩)
      (comparison ⟨"os_name", .notEqual, "nt"⟩)) (comparison ⟨"extra", .equal, "test"⟩)
    (∀ c ∈ m.comparisons, c.IsEquality) ∧ env.IsSingle ∧
      m.dual = join .conj (join .disj (comparison ⟨"python_version", .notEqual, "3.*"⟩)
        (comparison ⟨"os_name", .equal, "nt"⟩)) (comparison ⟨"extra", .notEqual, "test"⟩) ∧
      (m.evaluate env).value = comparison ⟨"extra", .equal, "test"⟩ ∧
      (m.dual.evaluate env).value = comparison ⟨"extra", .notEqual, "test"⟩ := by
  intro env m
  have hm : ∀ c ∈ m.comparisons, c.IsEquality := by
    simp [m, comparisons, Comparison.IsEquality]
  have henv : env.IsSingle := by
    intro key candidates hget
    simp only [env, Environment.get?_insert, Environment.get?_empty] at hget
    split_ifs at hget
    · obtain rfl := Option.some.inj hget
      decide
    · obtain rfl := Option.some.inj hget
      decide
  have hvalue : (m.evaluate env).value = comparison ⟨"extra", .equal, "test"⟩ := by
    have hversion : env.answer ⟨"python_version", .equal, "3.*"⟩ = some true := by
      simp only [env, Environment.answer_eq, Environment.get?_insert]
      rfl
    have htext : env.answer ⟨"os_name", .notEqual, "nt"⟩ = some false := by
      simp only [env, Environment.answer_eq, Environment.get?_insert]
      rfl
    have hfree : env.answer ⟨"extra", .equal, "test"⟩ = none := by
      simp [env, Environment.answer_eq, Environment.get?_insert]
    rw [value_evaluate]
    simp only [m, reduceBy, hversion, htext, hfree]
    rfl
  refine ⟨hm, henv, rfl, hvalue, ?_⟩
  rw [evaluate_dual.1 m env hm henv, hvalue]
  rfl

end Marker

end EnvMarkers
