import EnvMarkers.Proofs.PartialEvaluation
import EnvMarkers.Proofs.Walk
import Mathlib.Data.List.Basic

/-!
# Reports of open comparisons

Evaluation looks at every comparison of a marker once, from left to right, whatever the comparisons
before it have come to (`Marker.Walk.filterMap_comparison?`): what a walk still has to look at loses
the comparison it looks at next, and nothing else, with each task that is done
(`Marker.Walk.ahead_next`).

So there is a report for each comparison of a bound name that stays open, in this order and with the
number of candidates that could not decide it, and there are no others (`Marker.evaluate_reports`).
A side of a join is reported on even if the other side decides the join.
-/

namespace EnvMarkers

/-! ### Comparisons on their own -/

/-- The report about a comparison in an environment, if there is one. -/
def Environment.report? (env : Environment) (c : Comparison) : Option Event :=
  match env.get? c.lhs, env.answer c with
  | some candidates, none => some (.undecided c candidates.length)
  | _, _ => none

theorem Environment.report?_eq_some_iff {env : Environment} {c : Comparison} {e : Event} :
    env.report? c = some e ↔ ∃ candidates, env.get? c.lhs = some candidates ∧
      env.answer c = none ∧ e = .undecided c candidates.length := by
  unfold report?
  cases hget : env.get? c.lhs with
  | none => simp
  | some candidates =>
    cases hanswer : env.answer c with
    | none => simp [eq_comm]
    | some b => simp

theorem Comparison.events_check (c : Comparison) (env : Environment) :
    (c.check env).events = (env.report? c).toList := by
  unfold Environment.report? Environment.answer check
  cases env.get? c.lhs with
  | none => rfl
  | some candidates =>
    cases hverdict : c.verdict candidates with
    | none => simp only [hverdict]; rfl
    | some b => simp only [hverdict]; rfl

namespace Marker

/-! ### The order of the walk -/

/-- The comparisons in what a task visits. -/
def Task.comparisons : Task → List Comparison
  | .visit m => m.comparisons
  | .fold _ => []

namespace Walk

/-- The comparison that a walk looks at next, if its next task is to look at one. -/
def comparison? : Walk → Option Comparison
  | ⟨.visit (comparison c) :: _, _⟩ => some c
  | _ => none

/-- The comparisons that a walk still has to look at. -/
def ahead (w : Walk) : List Comparison :=
  w.tasks.flatMap Task.comparisons

variable (env : Environment)

/-- A task takes away the comparison that it looks at. -/
theorem ahead_next (w : Walk) : w.ahead = w.comparison?.toList ++ (w.next env).ahead := by
  obtain ⟨tasks, results⟩ := w
  match tasks with
  | [] => rfl
  | .visit (literal b) :: tasks => rfl
  | .visit (comparison c) :: tasks => rfl
  | .visit (join op l r) :: tasks =>
    show (l.comparisons ++ r.comparisons) ++ _ = l.comparisons ++ (r.comparisons ++ _)
    rw [List.append_assoc]
    rfl
  | .fold op :: tasks => rfl

/-- What a walk has to look at is what it looks at in its first tasks and what is left behind
them. -/
theorem ahead_iterate (w : Walk) (n : Nat) :
    w.ahead = (List.range n).filterMap (fun k => ((next env)^[k] w).comparison?) ++
      ((next env)^[n] w).ahead := by
  induction n with
  | zero => rfl
  | succ n ih =>
    have hlast : [n].filterMap (fun k => ((next env)^[k] w).comparison?) =
        ((next env)^[n] w).comparison?.toList := by
      rw [List.filterMap_eq_flatMap_toList, List.flatMap_singleton]
    rw [List.range_succ, List.filterMap_append, hlast, List.append_assoc,
      Function.iterate_succ_apply', ← ahead_next]
    exact ih

/-- A whole walk looks at the comparisons of the marker, from left to right. -/
theorem filterMap_comparison? (m : Marker) :
    (List.range m.weight).filterMap (fun n => ((next env)^[n] (start m)).comparison?) =
      m.comparisons := by
  have hends : ((next env)^[m.weight] (start m)).tasks = [] := by
    rw [tasks_eq_nil_iff, weight_iterate]
    simp [start, weight, Task.weight]
  have hall : (start m).ahead = m.comparisons := by
    simp [ahead, start, Task.comparisons]
  have hsplit := ahead_iterate env (start m) m.weight
  rw [hall, ahead, hends, List.flatMap_nil, List.append_nil] at hsplit
  exact hsplit.symm

end Walk

/-! ### Reports -/

theorem events_evaluate (m : Marker) (env : Environment) :
    (m.evaluate env).events = m.comparisons.filterMap env.report? := by
  rw [evaluate_eq, List.filterMap_eq_flatMap_toList]
  exact List.flatMap_congr fun c _ => c.events_check env

/-- Evaluation looks at each comparison of a marker once, from left to right.  It reports, in this
order, the comparisons whose name is bound and that stay open, each with the number of candidates of
the name, and nothing else.  What it reports about a join is what it reports about the left side and
then about the right side, whatever becomes of them. -/
theorem evaluate_reports (env : Environment) :
    (∀ m : Marker, (List.range m.weight).filterMap
        (fun n => ((Walk.next env)^[n] (Walk.start m)).comparison?) = m.comparisons) ∧
      (∀ m : Marker, (m.evaluate env).events = m.comparisons.filterMap env.report?) ∧
      (∀ c e, env.report? c = some e ↔ ∃ candidates, env.get? c.lhs = some candidates ∧
        env.answer c = none ∧ e = .undecided c candidates.length) ∧
      ∀ op l r, ((join op l r).evaluate env).events =
        (l.evaluate env).events ++ (r.evaluate env).events := by
  refine ⟨Walk.filterMap_comparison? env, fun m => events_evaluate m env, ?_, ?_⟩
  · exact fun c e => Environment.report?_eq_some_iff
  · intro op l r
    simp only [events_evaluate, comparisons, List.filterMap_append]

/-- A comparison with a name that is bound to no candidates is reported each time it occurs, also
beside one that decides the join; one with a free name is not reported. -/
theorem evaluate_reports_beside_true :
    let env := (Environment.empty.insert "os_name" [.exact "nt"]).insert "extra" []
    let known : Marker := comparison ⟨"os_name", .equal, "nt"⟩
    let empty : Marker := comparison ⟨"extra", .equal, "test"⟩
    let free : Marker := comparison ⟨"sys_platform", .equal, "linux"⟩
    let m := join .conj (join .disj known empty) (join .disj empty free)
    (m.evaluate env).value = join .disj empty free ∧
      (m.evaluate env).events = [.undecided ⟨"extra", .equal, "test"⟩ 0,
        .undecided ⟨"extra", .equal, "test"⟩ 0] := by
  intro env known empty free m
  have hname : env.get? "os_name" = some [.exact "nt"] := by
    simp [env, Environment.get?_insert]
  have hextra : env.get? "extra" = some [] := by
    simp [env, Environment.get?_insert]
  have hplatform : env.get? "sys_platform" = none := by
    simp [env, Environment.get?_insert]
  have hknown : env.answer ⟨"os_name", .equal, "nt"⟩ = some true := by
    simp [Environment.answer, Comparison.check, hname, Comparison.verdict, Candidate.compare,
      Candidate.decideEquality]
  have hempty : env.answer ⟨"extra", .equal, "test"⟩ = none := by
    simp [Environment.answer, Comparison.check, hextra, Comparison.verdict]
  have hfree : env.answer ⟨"sys_platform", .equal, "linux"⟩ = none := by
    simp [Environment.answer, Comparison.check, hplatform]
  obtain ⟨-, hevents, hreport, -⟩ := evaluate_reports env
  have hdecided : env.report? ⟨"os_name", .equal, "nt"⟩ = none := by
    simp [Environment.report?, hname, hknown]
  have hunbound : env.report? ⟨"sys_platform", .equal, "linux"⟩ = none := by
    simp [Environment.report?, hplatform]
  have hreported : env.report? ⟨"extra", .equal, "test"⟩ =
      some (.undecided ⟨"extra", .equal, "test"⟩ 0) :=
    (hreport _ _).mpr ⟨[], hextra, hempty, rfl⟩
  constructor
  · rw [value_evaluate]
    simp only [m, known, empty, free, reduceBy, hknown, hempty, hfree]
    rfl
  · have hcomparisons : m.comparisons = [⟨"os_name", .equal, "nt"⟩, ⟨"extra", .equal, "test"⟩,
        ⟨"extra", .equal, "test"⟩, ⟨"sys_platform", .equal, "linux"⟩] := rfl
    rw [hevents, hcomparisons, List.filterMap_cons_none hdecided,
      List.filterMap_cons_some hreported, List.filterMap_cons_some hreported,
      List.filterMap_cons_none hunbound, List.filterMap_nil]

end Marker

end EnvMarkers
