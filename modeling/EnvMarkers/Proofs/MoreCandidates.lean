import EnvMarkers.Proofs.CandidateSets

/-!
# More candidates

A name may be given further candidates (`Environment.push`), one after another.  Each comparison
that held before still holds then, since one candidate suffices (`Environment.Extends.answer_true`).
As connectives do not negate anything (`Connective.kleene_true_mono`), a marker that is evaluated to
`True` stays so, whatever is added (`Marker.evaluate_true_of_push`).

There is no such law for `False`: a comparison that fails by all candidates may hold by one more.
-/

namespace EnvMarkers

/-! ### Environments with more candidates -/

namespace Environment

/-- Whether each name has all the candidates in an environment that it has in another one. -/
def Extends (env base : Environment) : Prop :=
  ∀ key candidates, base.get? key = some candidates →
    ∃ more, env.get? key = some more ∧ candidates ⊆ more

/-- Adds candidates to their names, one after another. -/
def pushAll (env : Environment) (added : List (String × Candidate)) : Environment :=
  added.foldl (fun env (key, candidate) => env.push key candidate) env

theorem Extends.refl (env : Environment) : env.Extends env :=
  fun _ candidates hget => ⟨candidates, hget, List.Subset.refl _⟩

theorem Extends.trans {first second third : Environment} (h : second.Extends first)
    (h' : third.Extends second) : third.Extends first := by
  intro key candidates hget
  obtain ⟨more, hmore, hsubset⟩ := h key candidates hget
  obtain ⟨most, hmost, hsubset'⟩ := h' key more hmore
  exact ⟨most, hmost, List.Subset.trans hsubset hsubset'⟩

theorem extends_push (env : Environment) (key : String) (candidate : Candidate) :
    (env.push key candidate).Extends env := by
  intro other candidates hget
  rw [get?_push]
  split_ifs with hother
  · subst hother
    rw [hget, Option.getD_some]
    exact ⟨_, rfl, List.subset_append_left _ _⟩
  · exact ⟨candidates, hget, List.Subset.refl _⟩

theorem extends_pushAll (env : Environment) (added : List (String × Candidate)) :
    (env.pushAll added).Extends env := by
  induction added generalizing env with
  | nil => exact .refl env
  | cons entry added ih => exact (env.extends_push entry.1 entry.2).trans (ih _)

/-- What holds by one of some candidates holds by one of more. -/
theorem Extends.answer_true {env base : Environment} (h : env.Extends base) {c : Comparison}
    (hbase : base.answer c = some true) : env.answer c = some true := by
  rw [answer_eq] at hbase ⊢
  obtain ⟨candidates, hget, hverdict⟩ := Option.bind_eq_some_iff.mp hbase
  obtain ⟨more, hmore, hsubset⟩ := h c.lhs candidates hget
  obtain ⟨x, hx, hholds⟩ := Comparison.verdict_eq_some_true_iff.mp hverdict
  rw [hmore, Option.bind_some, Comparison.verdict_eq_some_true_iff]
  exact ⟨x, hsubset hx, hholds⟩

/-- One candidate more is enough for a comparison that has failed so far. -/
example :
    Comparison.verdict ⟨"extra", .equal, "test"⟩ [.exact "dev"] = some false ∧
      Comparison.verdict ⟨"extra", .equal, "test"⟩ [.exact "dev", .exact "test"] = some true := by
  decide

end Environment

/-! ### Markers that hold -/

/-- If each side holds where it did before, so does the join. -/
theorem Connective.kleene_true_mono (op : Connective) {l l' r r' : Option Bool}
    (hl : l = some true → l' = some true) (hr : r = some true → r' = some true)
    (h : op.kleene l r = some true) : op.kleene l' r' = some true := by
  cases op with
  | conj =>
    -- Both sides hold.
    have hsides : l = some true ∧ r = some true := by
      rcases l with _ | _ | _ <;> rcases r with _ | _ | _ <;> simp_all [kleene]
    rw [hl hsides.1, hr hsides.2]
    rfl
  | disj =>
    have hside : l = some true ∨ r = some true := by
      rcases l with _ | _ | _ <;> rcases r with _ | _ | _ <;> simp_all [kleene]
    rcases hside with hside | hside
    · rw [hl hside, Connective.kleene_some_left]
      rfl
    · rw [hr hside, Connective.kleene_some_right]
      rfl

namespace Marker

/-- If each comparison holds where it did before, so does a marker. -/
theorem kleene_true_mono {v w : Comparison → Option Bool}
    (h : ∀ c, v c = some true → w c = some true) {m : Marker} (hm : m.kleene v = some true) :
    m.kleene w = some true := by
  induction m with
  | literal b => exact hm
  | comparison c => exact h c hm
  | join op l r ihl ihr => exact op.kleene_true_mono ihl ihr hm

theorem evaluate_true_of_extends {m : Marker} {env base : Environment} (h : env.Extends base)
    (hbase : (m.evaluate base).value = literal true) : (m.evaluate env).value = literal true := by
  rw [← literal?_eq_some, literal?_evaluate] at hbase ⊢
  exact kleene_true_mono (fun c hc => h.answer_true hc) hbase

/-- A marker that is evaluated to `True` still is when a name has one candidate more, whether it had
any before or not, and when any number of candidates have been added. -/
theorem evaluate_true_of_push {m : Marker} {env : Environment}
    (h : (m.evaluate env).value = literal true) :
    (∀ key candidate, (m.evaluate (env.push key candidate)).value = literal true) ∧
      ∀ added, (m.evaluate (env.pushAll added)).value = literal true :=
  ⟨fun key candidate => evaluate_true_of_extends (env.extends_push key candidate) h,
    fun added => evaluate_true_of_extends (env.extends_pushAll added) h⟩

/-- One side of a disjunction holds already.  The other fails by the first candidate of a name that
was free. -/
theorem evaluate_true_of_push_free :
    let env := Environment.empty.insert "os_name" [.exact "nt"]
    let m := join .disj (comparison ⟨"os_name", .equal, "nt"⟩)
      (comparison ⟨"extra", .equal, "test"⟩)
    (m.evaluate env).value = literal true ∧
      (env.push "extra" (.exact "dev")).answer ⟨"extra", .equal, "test"⟩ = some false ∧
      (m.evaluate (env.push "extra" (.exact "dev"))).value = literal true ∧
      (m.evaluate (env.pushAll [("extra", .exact "dev"), ("os_name", .exact "posix")])).value =
        literal true := by
  intro env m
  have hholds : (m.evaluate env).value = literal true := by
    have hknown : env.answer ⟨"os_name", .equal, "nt"⟩ = some true := by
      simp only [env, Environment.answer_eq, Environment.get?_insert]
      rfl
    rw [← literal?_eq_some, literal?_evaluate]
    simp only [m, kleene, hknown, Connective.kleene_some_left]
    rfl
  obtain ⟨hpush, hpushAll⟩ := evaluate_true_of_push hholds
  refine ⟨hholds, ?_, hpush "extra" (.exact "dev"), hpushAll _⟩
  simp only [env, Environment.answer_eq, Environment.get?_push, Environment.get?_insert]
  rfl

end Marker

end EnvMarkers
