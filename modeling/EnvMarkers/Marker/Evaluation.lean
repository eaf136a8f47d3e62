import EnvMarkers.Environment.Basic
import EnvMarkers.Event

/-!
# Partial evaluation

Evaluating a marker in an environment replaces every comparison that the environment decides by a
truth value and folds the connectives around it; the rest of the marker stays as it is.

The evaluator (`Marker.evaluate`) walks the tree with a list of tasks and a stack of results of
its own, since chains nest as deep as they are long.  `Marker.reduceBy` is the same reduction by
recursion on the tree, for any way of deciding comparisons; `evaluate_eq` says that the walk
computes it and that every comparison of the tree is looked at once, from left to right.
-/

namespace EnvMarkers

namespace Comparison

/-- What several candidates say together: any of them suffices, and those that decide nothing do
not count. -/
def verdict (c : Comparison) (candidates : List Candidate) : Option Bool :=
  match candidates.filterMap fun candidate => candidate.compare c.comparator c.rhs with
  | [] => none
  | v :: vs => some (vs.foldl (· || ·) v)

/-- Whether a comparison holds in an environment, if the environment decides it.  A comparison of
a bound name that stays open is reported. -/
def check (c : Comparison) (env : Environment) : Logged (Option Bool) :=
  match env.get? c.lhs with
  | none => pure none
  | some candidates =>
    match c.verdict candidates with
    | none => do
      Logged.report (.undecided c candidates.length)
      return none
    | some v => pure (some v)

end Comparison

namespace Marker

/-- Joins two markers, as far as neither of them is a truth value. -/
def fold : Connective → Marker → Marker → Marker
  | .disj, left, right =>
    match left.literal?, right.literal? with
    | some true, _ => literal true
    | some false, _ => right
    | none, some true => literal true
    | none, some false => left
    | none, none => join .disj left right
  | .conj, left, right =>
    match left.literal?, right.literal? with
    | some false, _ => literal false
    | some true, _ => right
    | none, some false => literal false
    | none, some true => left
    | none, none => join .conj left right

/-- The truth value of a comparison that is decided, and the comparison itself otherwise. -/
def ofVerdict (c : Comparison) : Option Bool → Marker
  | some v => literal v
  | none => comparison c

/-- Replaces the comparisons that `decide?` decides by their truth values and folds the connectives
around them. -/
def reduceBy (decide? : Comparison → Option Bool) : Marker → Marker
  | literal b => literal b
  | comparison c => ofVerdict c (decide? c)
  | join op l r => fold op (l.reduceBy decide?) (r.reduceBy decide?)

/-- The comparisons of a marker, from left to right. -/
def comparisons : Marker → List Comparison
  | literal _ => []
  | comparison c => [c]
  | join _ l r => l.comparisons ++ r.comparisons

/-- A marker mentions the left sides of its comparisons. -/
theorem mentions_iff (m : Marker) (key : String) :
    m.mentions key = true ↔ ∃ c ∈ m.comparisons, c.lhs = key := by
  induction m with
  | literal b => simp [comparisons]
  | comparison c => simp [comparisons]
  | join op l r ihl ihr =>
    simp only [mentions_join, Bool.or_eq_true, ihl, ihr, comparisons, List.mem_append, or_and_right,
      exists_or]

/-! ### The walk -/

/-- Something the evaluator still has to do. -/
inductive Task where
  /-- Evaluate a marker. -/
  | visit (m : Marker)
  /-- Join the two latest results. -/
  | fold (op : Connective)
  deriving Repr, Inhabited

/-- The measure of one task. -/
def Task.weight : Task → Nat
  | .visit m => m.weight
  | .fold _ => 1

/-- The tasks that are left and the results that have been found. -/
structure Walk where
  /-- The tasks, the next one first. -/
  tasks : List Task
  /-- The results, the latest first. -/
  results : List Marker
  deriving Repr, Inhabited

/-- The latest result and those before it, with `False` in place of a result that is missing. -/
def popResult (results : List Marker) : Marker × List Marker :=
  (results.headD (literal false), results.tail)

/-- Does a task in front of the tasks and the results of a walk. -/
def Task.perform (env : Environment) (task : Task) (walk : Walk) : Logged Walk :=
  match task with
  | .visit (literal b) => return { walk with results := literal b :: walk.results }
  | .visit (comparison c) => do
    let verdict ← c.check env
    return { walk with results := ofVerdict c verdict :: walk.results }
  | .visit (join op l r) =>
    return { walk with tasks := .visit l :: .visit r :: .fold op :: walk.tasks }
  | .fold op => do
    let (right, results) := popResult walk.results
    let (left, results) := popResult results
    return { walk with results := Marker.fold op left right :: results }

namespace Walk

/-- The walk that evaluates a marker, before its first task. -/
def start (m : Marker) : Walk := ⟨[.visit m], []⟩

/-- The work that is left, which is one for each task that will be done. -/
def weight (walk : Walk) : Nat :=
  walk.tasks.foldr (fun t n => t.weight + n) 0

/-- Doing a task is one step closer to the end. -/
theorem weight_perform (env : Environment) (task : Task) (tasks : List Task)
    (results : List Marker) :
    (task.perform env ⟨tasks, results⟩).value.weight + 1 = weight ⟨task :: tasks, results⟩ := by
  cases task with
  | visit m => cases m <;> simp [Task.perform, weight, Task.weight, Marker.weight] <;> omega
  | fold op => simp [Task.perform, weight, Task.weight]; omega

/-- Does the tasks in order.  `log` are the events so far, the latest first. -/
def run (env : Environment) : Walk → List Event → List Marker × List Event
  | ⟨[], results⟩, log => (results, log)
  | ⟨task :: tasks, results⟩, log =>
    let next := task.perform env ⟨tasks, results⟩
    run env next.value (next.events.reverse ++ log)
termination_by walk => walk.weight
decreasing_by exact Nat.lt_of_succ_le (Nat.le_of_eq (weight_perform env task tasks results))

end Walk

/-- Evaluates a marker in an environment. -/
def evaluate (m : Marker) (env : Environment) : Logged Marker :=
  let (results, log) := (Walk.start m).run env []
  ⟨results.headD m, log.reverse⟩

/-- Visiting a marker adds one result and the events of its comparisons, and goes on with the
tasks behind it. -/
theorem Walk.run_visit (env : Environment) (m : Marker) (tasks : List Task)
    (results : List Marker) (log : List Event) :
    run env ⟨.visit m :: tasks, results⟩ log =
      run env ⟨tasks, m.reduceBy (fun c => (c.check env).value) :: results⟩
        ((m.comparisons.flatMap fun c => (c.check env).events).reverse ++ log) := by
  induction m generalizing tasks results log with
  | literal b => rw [run]; simp [Task.perform, reduceBy, comparisons]
  | comparison c => rw [run]; simp [Task.perform, reduceBy, comparisons]
  | join op l r ihl ihr =>
    rw [run]
    simp only [Task.perform, Logged.value_pure, Logged.events_pure, List.reverse_nil,
      List.nil_append]
    rw [ihl, ihr, run]
    simp [Task.perform, popResult, reduceBy, comparisons]

/-- The walk reduces the marker by what the environment decides, and reports what its comparisons
report, from left to right. -/
theorem evaluate_eq (m : Marker) (env : Environment) :
    m.evaluate env =
      ⟨m.reduceBy fun c => (c.check env).value,
        m.comparisons.flatMap fun c => (c.check env).events⟩ := by
  simp [evaluate, Walk.start, Walk.run_visit, Walk.run]

end Marker

end EnvMarkers
