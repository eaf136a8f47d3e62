import EnvMarkers.Proofs.Bindings
import EnvMarkers.Proofs.NormalForm

/-!
# Evaluation in stages

A marker may be evaluated in one environment after another.  What an earlier environment decides
is gone from the marker when a later one is asked, so the stages amount to one reduction in which
each comparison has the answer of the first environment that decides it (`evaluateThrough_cons`).
Where no two of the environments have a name in common, that is the answer of their union, so the
stages may come in any order (`evaluate_staged`).

A reduction of a reduction is a reduction since `Marker.reduceBy` goes through `Marker.fold`
(`reduceBy_fold`), whichever side the fold has dropped.
-/

namespace EnvMarkers

namespace Environment

/-- What an environment answers depends on the candidates of the name on the left alone. -/
theorem answer_eq (env : Environment) (c : Comparison) :
    env.answer c = (env.get? c.lhs).bind c.verdict := by
  rw [answer, Comparison.check]
  cases env.get? c.lhs with
  | none => rfl
  | some candidates =>
    simp only [Option.bind_some]
    cases c.verdict candidates <;> rfl

/-- The answer of the first of several environments that decides a comparison. -/
def firstAnswer (envs : List Environment) (c : Comparison) : Option Bool :=
  envs.findSome? fun env => env.answer c

/-- A search among answers of which each is `v` or missing finds `v`. -/
theorem findSome?_eq_of_agree {α β : Type} {f : α → Option β} {xs : List α} {v : Option β}
    (hagree : ∀ x ∈ xs, f x = none ∨ f x = v) (hfound : v.isSome → ∃ x ∈ xs, f x = v) :
    xs.findSome? f = v := by
  cases v with
  | none => exact List.findSome?_eq_none_iff.mpr fun x hx => (hagree x hx).elim id id
  | some b =>
    obtain ⟨x, hx, hfx⟩ := hfound rfl
    have hsome : (xs.findSome? f).isSome := by
      rw [List.findSome?_isSome_iff]
      exact ⟨x, hx, by rw [hfx]; rfl⟩
    obtain ⟨a, ha⟩ := Option.isSome_iff_exists.mp hsome
    obtain ⟨y, hy, hfy⟩ := List.exists_of_findSome?_eq_some ha
    rcases hagree y hy with hnone | hsame
    · rw [hnone] at hfy
      cases hfy
    · rw [ha, ← hfy, hsame]

/-- Among disjoint environments it does not matter which one is asked first: the answer is that of
their union. -/
theorem firstAnswer_eq_unionAll {envs stages : List Environment} (h : envs.Pairwise Disjoint)
    (hperm : stages.Perm envs) (c : Comparison) :
    firstAnswer stages c = (unionAll envs).answer c := by
  have hiff : ∀ candidates, (unionAll envs).get? c.lhs = some candidates ↔
      ∃ env ∈ stages, env.get? c.lhs = some candidates := by
    intro candidates
    simp only [get?_unionAll_iff h, hperm.mem_iff]
  apply findSome?_eq_of_agree
  · -- An environment that binds the name gives it the candidates of the union.
    intro env henv
    cases hget : env.get? c.lhs with
    | none =>
      left
      rw [answer_eq, hget]
      rfl
    | some candidates =>
      right
      rw [answer_eq, answer_eq, hget, (hiff candidates).mpr ⟨env, henv, hget⟩]
  · intro hsome
    cases hunion : (unionAll envs).get? c.lhs with
    | none =>
      rw [answer_eq, hunion] at hsome
      cases hsome
    | some candidates =>
      obtain ⟨env, henv, hget⟩ := (hiff candidates).mp hunion
      refine ⟨env, henv, ?_⟩
      rw [answer_eq, answer_eq, hget, hunion]

end Environment

namespace Marker

/-! ### A reduction of a reduction -/

/-- Reducing a folded join is folding its reduced sides. -/
theorem reduceBy_fold (decide? : Comparison → Option Bool) (op : Connective) (l r : Marker) :
    (fold op l r).reduceBy decide? = fold op (l.reduceBy decide?) (r.reduceBy decide?) := by
  -- A literal side is the same after another reduction, so it has the same part in the join then.
  obtain ⟨a, rfl⟩ | hl := l.eq_literal_or_open
  · rw [fold_literal_left, apply_ite (reduceBy decide?), reduceBy, fold_literal_left]
  obtain ⟨b, rfl⟩ | hr := r.eq_literal_or_open
  · rw [fold_literal_right, apply_ite (reduceBy decide?), reduceBy, fold_literal_right]
  · rw [fold_of_open op hl hr, reduceBy]

/-- Two reductions amount to one that asks the second where the first has no answer. -/
theorem reduceBy_reduceBy (first second : Comparison → Option Bool) (m : Marker) :
    (m.reduceBy first).reduceBy second = m.reduceBy fun c => (first c).or (second c) := by
  induction m with
  | literal b => rfl
  | comparison c =>
    rw [reduceBy, reduceBy]
    cases first c <;> rfl
  | join op l r ihl ihr => rw [reduceBy, reduceBy_fold, ihl, ihr, reduceBy]

/-! ### Stages -/

/-- The marker that is left when it is evaluated in one environment after another. -/
def evaluateThrough (m : Marker) (envs : List Environment) : Marker :=
  envs.foldl (fun m env => (m.evaluate env).value) m

/-- Further stages decide what a reduction has left open. -/
theorem evaluateThrough_reduceBy (decide? : Comparison → Option Bool) (m : Marker)
    (envs : List Environment) :
    (m.reduceBy decide?).evaluateThrough envs =
      m.reduceBy fun c => (decide? c).or (Environment.firstAnswer envs c) := by
  induction envs generalizing decide? with
  | nil =>
    simp only [Environment.firstAnswer, List.findSome?_nil, Option.or_none]
    rfl
  | cons env envs ih =>
    have hstep : (m.reduceBy decide?).evaluateThrough (env :: envs) =
        (m.reduceBy fun c => (decide? c).or (env.answer c)).evaluateThrough envs := by
      rw [evaluateThrough, List.foldl_cons, value_evaluate, reduceBy_reduceBy]
      rfl
    rw [hstep, ih]
    congr 1
    funext c
    rw [Option.or_assoc, Environment.firstAnswer, Environment.firstAnswer, List.findSome?_cons]
    cases env.answer c <;> rfl

/-- Evaluation in one environment after another is one reduction, in which the first environment
with an answer is heard. -/
theorem evaluateThrough_cons (m : Marker) (env : Environment) (envs : List Environment) :
    m.evaluateThrough (env :: envs) = m.reduceBy (Environment.firstAnswer (env :: envs)) := by
  have hfirst : m.evaluateThrough (env :: envs) =
      (m.reduceBy env.answer).evaluateThrough envs := by
    rw [evaluateThrough, List.foldl_cons, value_evaluate]
    rfl
  rw [hfirst, evaluateThrough_reduceBy]
  congr 1
  funext c
  rw [Environment.firstAnswer, Environment.firstAnswer, List.findSome?_cons]
  cases env.answer c <;> rfl

/-- Evaluation in two environments one after the other is the reduction in which the second is
asked where the first has no answer; evaluation in disjoint environments, in any order, is
evaluation in their union, unless there is none of them and the marker is not folded yet; and a
second evaluation in the same environment changes nothing. -/
theorem evaluate_staged (m : Marker) :
    (∀ first second, ((m.evaluate first).value.evaluate second).value =
        m.reduceBy fun c => (first.answer c).or (second.answer c)) ∧
      (∀ envs stages : List Environment, envs.Pairwise Environment.Disjoint → stages.Perm envs →
        (m.evaluateThrough stages = (m.evaluate (Environment.unionAll envs)).value ↔
          stages ≠ [] ∨ m.IsFolded)) ∧
      ∀ env, ((m.evaluate env).value.evaluate env).value = (m.evaluate env).value := by
  refine ⟨?_, ?_, ?_⟩
  · intro first second
    rw [value_evaluate, value_evaluate, reduceBy_reduceBy]
  · intro envs stages hdisjoint hperm
    have hunion : (m.evaluate (Environment.unionAll envs)).value =
        m.reduceBy (Environment.firstAnswer stages) := by
      rw [value_evaluate]
      congr 1
      funext c
      exact (Environment.firstAnswer_eq_unionAll hdisjoint hperm c).symm
    rw [hunion]
    cases stages with
    | nil =>
      -- Without a stage nothing is folded.
      have hnil : m.evaluateThrough [] = m := rfl
      have hanswer : Environment.firstAnswer [] = fun _ => none := rfl
      rw [hnil, hanswer, eq_comm, reduceBy_none_eq_self_iff]
      simp
    | cons env envs =>
      rw [evaluateThrough_cons]
      simp
  · intro env
    rw [value_evaluate, value_evaluate, reduceBy_reduceBy]
    congr 1
    funext c
    exact Option.or_self

/-- Two stages without a name in common, taken in the other order, decide a marker between them. -/
theorem evaluate_staged_swapped :
    let platform := Environment.empty.insert "os_name" [.exact "nt"]
    let extras := Environment.empty.insert "extra" [.exact "test"]
    let m := join .conj (comparison ⟨"os_name", .equal, "nt"⟩)
      (comparison ⟨"extra", .equal, "test"⟩)
    [platform, extras].Pairwise Environment.Disjoint ∧
      m.evaluateThrough [extras, platform] =
        (m.evaluate (Environment.unionAll [platform, extras])).value := by
  intro platform extras m
  have hdisjoint : [platform, extras].Pairwise Environment.Disjoint := by
    refine List.pairwise_pair.mpr fun key hkey => ?_
    simp only [platform, extras, Environment.contains_eq_isSome, Environment.get?_insert,
      Environment.get?_empty] at hkey ⊢
    by_cases h : key = "os_name"
    · subst h
      decide
    · rw [if_neg h] at hkey
      cases hkey
  refine ⟨hdisjoint, ?_⟩
  exact ((evaluate_staged m).2.1 _ _ hdisjoint (List.Perm.swap ..)).mpr
    (.inl (List.cons_ne_nil _ _))

/-- Without any stage a marker keeps the truth values under its connectives, which evaluation in
the empty union of no environments takes away. -/
theorem evaluateThrough_nil_ne_evaluate_unionAll :
    let m := join .disj (literal true) (comparison ⟨"extra", .equal, "test"⟩)
    [].Pairwise Environment.Disjoint ∧
      m.evaluateThrough [] ≠ (m.evaluate (Environment.unionAll [])).value := by
  intro m
  refine ⟨List.Pairwise.nil, ?_⟩
  have hunion : (m.evaluate (Environment.unionAll [])).value = literal true := by
    rw [value_evaluate, reduceBy, reduceBy, fold_literal_left]
    rfl
  rw [hunion]
  exact Marker.noConfusion

end Marker

end EnvMarkers
