import EnvMarkers.Marker.Evaluation
import Mathlib.Logic.Function.Iterate

/-!
# The walk of the evaluator

The evaluator keeps its tasks and its results on two stacks.  It ends after as many tasks as the
measure of the marker says, since each task done lowers the work that is left by one
(`Marker.Walk.weight_iterate`); and it never joins results that are not there, since the results
suffice for the tasks at the start and after every task (`Marker.Walk.Suffice`,
`Marker.Walk.suffice_iterate`).  The one result at the end is what recursion on the tree comes to,
with the same events on the way (`Marker.evaluate_eq_byRecursion`).  `Marker.walk_evaluates` puts
these together.
-/

namespace EnvMarkers.Marker

/-! ### Recursion on the tree -/

/-- Evaluates the left side of a join, then the right side, and folds the two. -/
def byRecursion (env : Environment) : Marker → Logged Marker
  | literal b => return literal b
  | comparison c => do
    let verdict ← c.check env
    return ofVerdict c verdict
  | join op l r => do
    let left ← l.byRecursion env
    let right ← r.byRecursion env
    return fold op left right

theorem byRecursion_eq (env : Environment) (m : Marker) :
    m.byRecursion env =
      ⟨m.reduceBy fun c => (c.check env).value,
        m.comparisons.flatMap fun c => (c.check env).events⟩ := by
  induction m with
  | literal b => rfl
  | comparison c => ext1 <;> simp [byRecursion, reduceBy, comparisons]
  | join op l r ihl ihr =>
    rw [byRecursion, ihl, ihr]
    ext1 <;> simp [reduceBy, comparisons]

theorem evaluate_eq_byRecursion (m : Marker) (env : Environment) :
    m.evaluate env = m.byRecursion env := by
  rw [evaluate_eq, byRecursion_eq]

namespace Walk

variable (env : Environment)

/-- The walk after its next task.  A walk without tasks stays as it is. -/
def next : Walk → Walk
  | ⟨[], results⟩ => ⟨[], results⟩
  | ⟨task :: tasks, results⟩ => (task.perform env ⟨tasks, results⟩).value

/-! ### The end -/

theorem tasks_eq_nil_iff (w : Walk) : w.tasks = [] ↔ w.weight = 0 := by
  obtain ⟨tasks, results⟩ := w
  cases tasks with
  | nil => simp [weight]
  | cons task tasks =>
    -- There is work left in a task, whatever the environment.
    have h := weight_perform .empty task tasks results
    simp only [List.cons_ne_nil, false_iff]
    omega

theorem weight_next (w : Walk) : (w.next env).weight = w.weight - 1 := by
  obtain ⟨tasks, results⟩ := w
  cases tasks with
  | nil => rfl
  | cons task tasks =>
    rw [next, ← weight_perform env task tasks results, Nat.add_sub_cancel]

theorem weight_iterate (w : Walk) (n : Nat) : ((next env)^[n] w).weight = w.weight - n := by
  induction n with
  | zero => rfl
  | succ n ih => rw [Function.iterate_succ_apply', weight_next, ih, Nat.sub_sub]

/-- The outcome of a walk is its results after the last task. -/
theorem results_run (w : Walk) (log : List Event) :
    (w.run env log).1 = ((next env)^[w.weight] w).results := by
  fun_induction run env w log with
  | case1 results log => rfl
  | case2 task tasks results log step ih =>
    rw [← weight_perform env task tasks results, Function.iterate_succ_apply, ih]
    rfl

/-! ### The results on the way -/

/-- Whether `n` results suffice for the tasks: no join lacks one of its sides, and a single result
is left in the end. -/
def Suffice : List Task → Nat → Prop
  | [], n => n = 1
  | .visit _ :: tasks, n => Suffice tasks (n + 1)
  | .fold _ :: tasks, n => 2 ≤ n ∧ Suffice tasks (n - 1)

theorem suffice_next {w : Walk} (h : Suffice w.tasks w.results.length) :
    Suffice (w.next env).tasks (w.next env).results.length := by
  obtain ⟨tasks, results⟩ := w
  match tasks with
  | [] => exact h
  | .visit (literal b) :: tasks => exact h
  | .visit (comparison c) :: tasks => exact h
  | .visit (join op l r) :: tasks =>
    -- The sides bring two results, and the join makes one of them.
    have hjoin : 2 ≤ results.length + 1 + 1 ∧ Suffice tasks (results.length + 1 + 1 - 1) :=
      ⟨by omega, h⟩
    exact hjoin
  | .fold op :: tasks =>
    obtain ⟨hsides, hrest⟩ : 2 ≤ results.length ∧ Suffice tasks (results.length - 1) := h
    have hlength : results.tail.tail.length + 1 = results.length - 1 := by
      rw [List.length_tail, List.length_tail]
      omega
    show Suffice tasks (results.tail.tail.length + 1)
    rw [hlength]
    exact hrest

theorem suffice_iterate {w : Walk} (h : Suffice w.tasks w.results.length) (n : Nat) :
    Suffice ((next env)^[n] w).tasks ((next env)^[n] w).results.length := by
  induction n with
  | zero => exact h
  | succ n ih =>
    rw [Function.iterate_succ_apply']
    exact suffice_next env ih

theorem suffice_start (m : Marker) : Suffice (start m).tasks (start m).results.length :=
  rfl

end Walk

/-- The walk that evaluates a marker ends after as many tasks as the measure of the marker says.
Whenever a join is next, both of its sides are there; at the end there is a single result, which is
the outcome; and this outcome is that of recursion on the tree, where each connective folds the
outcomes of its left and its right side. -/
theorem walk_evaluates (m : Marker) (env : Environment) :
    let walk := fun n => (Walk.next env)^[n] (Walk.start m)
    (∀ n, (walk n).tasks = [] ↔ m.weight ≤ n) ∧
      (∀ n op tasks, (walk n).tasks = .fold op :: tasks → 2 ≤ (walk n).results.length) ∧
      (walk m.weight).results = [(m.evaluate env).value] ∧
      m.evaluate env = m.byRecursion env := by
  intro walk
  have hweight : (Walk.start m).weight = m.weight := by
    simp [Walk.start, Walk.weight, Task.weight]
  have hends : ∀ n, (walk n).tasks = [] ↔ m.weight ≤ n := by
    intro n
    rw [Walk.tasks_eq_nil_iff, Walk.weight_iterate, hweight, Nat.sub_eq_zero_iff_le]
  have hsuffice := Walk.suffice_iterate env (Walk.suffice_start m)
  refine ⟨hends, ?_, ?_, evaluate_eq_byRecursion m env⟩
  · intro n op tasks htasks
    have hn : Walk.Suffice (walk n).tasks (walk n).results.length := hsuffice n
    rw [htasks] at hn
    exact hn.1
  · have hlast : Walk.Suffice (walk m.weight).tasks (walk m.weight).results.length :=
      hsuffice m.weight
    rw [(hends m.weight).mpr (Nat.le_refl _)] at hlast
    obtain ⟨result, hresult⟩ := List.length_eq_one_iff.mp hlast
    have hrun : ((Walk.start m).run env []).1 = [result] := by
      rw [Walk.results_run, hweight]
      exact hresult
    have hvalue : (m.evaluate env).value = ((Walk.start m).run env []).1.headD m := rfl
    rw [hresult, hvalue, hrun]
    rfl

/-- The right side is evaluated last and is on top of the results when the join is next. -/
theorem walk_evaluates_join :
    let m := join .conj (comparison ⟨"os_name", .equal, "nt"⟩) (literal true)
    let walk := (Walk.next .empty)^[3] (Walk.start m)
    walk.tasks = [.fold .conj] ∧ 2 ≤ walk.results.length ∧
      walk.results = [literal true, comparison ⟨"os_name", .equal, "nt"⟩] ∧
      m.evaluate .empty = m.byRecursion .empty ∧
      (m.evaluate .empty).value = comparison ⟨"os_name", .equal, "nt"⟩ := by
  intro m walk
  obtain ⟨-, hjoins, -, hrecursion⟩ := walk_evaluates m .empty
  have hopen : (Comparison.check ⟨"os_name", .equal, "nt"⟩ .empty).value = none := rfl
  have htasks : walk.tasks = [.fold .conj] := by
    simp only [walk, m, Function.iterate_succ_apply', Function.iterate_zero_apply, Walk.start]
    rfl
  refine ⟨htasks, hjoins 3 .conj [] htasks, ?_, hrecursion, ?_⟩
  · simp only [walk, m, Function.iterate_succ_apply', Function.iterate_zero_apply, Walk.start]
    rfl
  · rw [hrecursion, byRecursion_eq]
    simp only [m, reduceBy, hopen]
    rfl

end EnvMarkers.Marker
