import EnvMarkers.Proofs.StagedEvaluation

/-!
# Candidates as sets

What several candidates say together about a comparison depends on which of them decide it, and to
what truth value, but not on their order or number: one that says yes suffices, no wins where
nobody says yes, and candidates that decide nothing do not count
(`Comparison.verdict_eq_some_true_iff`, `Comparison.verdict_eq_some_false_iff`,
`Comparison.verdict_eq_none_iff`).

So the candidates of a name may be put in another order or be repeated, and those that decide
nothing in a marker may be dropped (`Marker.Rearranged`), and the marker is evaluated to the same
marker (`Marker.evaluate_candidates`).  Only what is reported about open comparisons may change, as
it says how many candidates there are.
-/

namespace EnvMarkers

/-! ### What several candidates say -/

namespace Comparison

theorem foldl_or_eq_true {votes : List Bool} {first : Bool} :
    votes.foldl (· || ·) first = true ↔ true ∈ first :: votes := by
  induction votes generalizing first with
  | nil => simp [eq_comm]
  | cons vote votes ih =>
    rw [List.foldl_cons, ih]
    cases first <;> cases vote <;> simp

variable {c : Comparison} {candidates : List Candidate}

/-- Nothing is decided exactly if no candidate decides anything. -/
theorem verdict_eq_none_iff :
    c.verdict candidates = none ↔ ∀ x ∈ candidates, x.compare c.comparator c.rhs = none := by
  rw [← List.filterMap_eq_nil_iff, verdict]
  split
  · next hvotes => simp [hvotes]
  · next hvotes => simp [hvotes]

/-- A comparison holds exactly if it does by one of the candidates. -/
theorem verdict_eq_some_true_iff :
    c.verdict candidates = some true ↔
      ∃ x ∈ candidates, x.compare c.comparator c.rhs = some true := by
  rw [← List.mem_filterMap, verdict]
  split
  · next hvotes => simp [hvotes]
  · next hvotes => rw [hvotes, Option.some.injEq, foldl_or_eq_true]

/-- A comparison fails exactly if it does by one of the candidates and holds by none. -/
theorem verdict_eq_some_false_iff :
    c.verdict candidates = some false ↔
      (¬ ∃ x ∈ candidates, x.compare c.comparator c.rhs = some true) ∧
        ∃ x ∈ candidates, x.compare c.comparator c.rhs = some false := by
  rw [← verdict_eq_some_true_iff]
  constructor
  · intro h
    have hsome : ¬ ∀ x ∈ candidates, x.compare c.comparator c.rhs = none := by
      rw [← verdict_eq_none_iff, h]
      exact Option.some_ne_none false
    have hnot : c.verdict candidates ≠ some true := by simp [h]
    obtain ⟨x, hx, hdecides⟩ := not_forall₂.mp hsome
    refine ⟨hnot, x, hx, ?_⟩
    -- A candidate that says yes would have been heard.
    obtain ⟨b, hb⟩ := Option.ne_none_iff_exists'.mp hdecides
    cases b with
    | false => exact hb
    | true => exact absurd (verdict_eq_some_true_iff.mpr ⟨x, hx, hb⟩) hnot
  · rintro ⟨hnot, x, hx, hfalse⟩
    cases h : c.verdict candidates with
    | none =>
      rw [verdict_eq_none_iff.mp h x hx] at hfalse
      cases hfalse
    | some b =>
      cases b with
      | false => rfl
      | true => exact absurd h hnot

/-- Two lists with the same candidates among those that decide a comparison say the same. -/
theorem verdict_congr {xs ys : List Candidate}
    (h : ∀ x, x.compare c.comparator c.rhs ≠ none → (x ∈ xs ↔ x ∈ ys)) :
    c.verdict xs = c.verdict ys := by
  have hsays : ∀ b, (∃ x ∈ xs, x.compare c.comparator c.rhs = some b) ↔
      ∃ x ∈ ys, x.compare c.comparator c.rhs = some b := by
    intro b
    refine exists_congr fun x => and_congr_left fun hb => h x ?_
    rw [hb]
    exact Option.some_ne_none b
  ext b
  cases b with
  | false => rw [verdict_eq_some_false_iff, verdict_eq_some_false_iff, hsays, hsays]
  | true => rw [verdict_eq_some_true_iff, verdict_eq_some_true_iff, hsays]

end Comparison

/-! ### Lists that make no difference -/

namespace Marker

/-- What may be done to the candidates of a name without any effect on a marker: they may be put in
another order, one of them may be repeated, and one may be dropped that decides none of the
comparisons in which the marker reads the name. -/
inductive Rearranged (m : Marker) (key : String) : List Candidate → List Candidate → Prop
  /-- Another order. -/
  | permute {xs ys : List Candidate} (h : xs.Perm ys) : Rearranged m key xs ys
  /-- A candidate twice. -/
  | duplicate {x : Candidate} {xs : List Candidate} (h : x ∈ xs) : Rearranged m key xs (x :: xs)
  /-- A candidate less. -/
  | drop {x : Candidate} {xs : List Candidate}
    (h : ∀ c ∈ m.comparisons, c.lhs = key → x.compare c.comparator c.rhs = none) :
    Rearranged m key (x :: xs) xs
  /-- One thing after another. -/
  | trans {xs ys zs : List Candidate} (first : Rearranged m key xs ys)
    (second : Rearranged m key ys zs) : Rearranged m key xs zs

/-- The candidates that decide a comparison of the name stay. -/
theorem Rearranged.mem_iff {m : Marker} {xs ys : List Candidate} {c : Comparison}
    (h : m.Rearranged c.lhs xs ys) (hc : c ∈ m.comparisons) {x : Candidate}
    (hx : x.compare c.comparator c.rhs ≠ none) : x ∈ xs ↔ x ∈ ys := by
  induction h with
  | permute hperm => exact hperm.mem_iff
  | @duplicate y xs hy =>
    rw [List.mem_cons]
    refine ⟨.inr, fun h => h.elim ?_ id⟩
    rintro rfl
    exact hy
  | @drop y xs hy =>
    have hne : x ≠ y := by
      rintro rfl
      exact hx (hy c hc rfl)
    rw [List.mem_cons, or_iff_right hne]
  | trans first second ihfirst ihsecond => exact ihfirst.trans ihsecond

/-- Where the candidates of each name are rearranged, the comparisons of the marker are answered as
before. -/
theorem answer_of_rearranged {m : Marker} {env other : Environment}
    (h : ∀ key, Option.Rel (m.Rearranged key) (env.get? key) (other.get? key)) {c : Comparison}
    (hc : c ∈ m.comparisons) : other.answer c = env.answer c := by
  rw [Environment.answer_eq, Environment.answer_eq]
  have hrearranged := h c.lhs
  generalize env.get? c.lhs = before, other.get? c.lhs = after at hrearranged ⊢
  cases hrearranged with
  | none => rfl
  | some hlists => exact (Comparison.verdict_congr fun x hx => hlists.mem_iff hc hx).symm

/-- A comparison of a bound name holds if it does by one of the candidates, fails if it does by one
of them and holds by none, and is open if all of them leave it open.  So a marker is evaluated to
the same marker if the candidates of any names are put in another order or repeated, or if some of
them are dropped that decide none of the marker's comparisons of their name. -/
theorem evaluate_candidates :
    (∀ (c : Comparison) (env : Environment) (candidates : List Candidate),
      env.get? c.lhs = some candidates →
        (env.answer c = some true ↔
          ∃ x ∈ candidates, x.compare c.comparator c.rhs = some true) ∧
        (env.answer c = some false ↔
          (¬ ∃ x ∈ candidates, x.compare c.comparator c.rhs = some true) ∧
            ∃ x ∈ candidates, x.compare c.comparator c.rhs = some false) ∧
        (env.answer c = none ↔ ∀ x ∈ candidates, x.compare c.comparator c.rhs = none)) ∧
    ∀ (m : Marker) (env other : Environment),
      (∀ key, Option.Rel (m.Rearranged key) (env.get? key) (other.get? key)) →
        (m.evaluate other).value = (m.evaluate env).value := by
  constructor
  · intro c env candidates hget
    have hanswer : env.answer c = c.verdict candidates := by
      rw [Environment.answer_eq, hget, Option.bind_some]
    rw [hanswer]
    exact ⟨Comparison.verdict_eq_some_true_iff, Comparison.verdict_eq_some_false_iff,
      Comparison.verdict_eq_none_iff⟩
  · intro m env other h
    rw [value_evaluate, value_evaluate]
    exact reduceBy_congr fun c hc => answer_of_rearranged h hc

/-- A text is repeated at the other end, and a version is dropped that no comparison of its name can
be decided by. -/
theorem evaluate_candidates_rearranged :
    let env := Environment.empty.insert "extra"
      [.exact "dev", .version ⟨0, [3, 8], none, none, none, []⟩, .exact "test"]
    let other := Environment.empty.insert "extra" [.exact "test", .exact "dev", .exact "test"]
    let m := join .conj (comparison ⟨"extra", .equal, "test"⟩)
      (comparison ⟨"python_version", .equal, "3.8"⟩)
    (∀ key, Option.Rel (m.Rearranged key) (env.get? key) (other.get? key)) ∧
      env.answer ⟨"extra", .equal, "test"⟩ = some true ∧
      (m.evaluate other).value = (m.evaluate env).value := by
  intro env other m
  have hget : env.get? "extra" =
      some [.exact "dev", .version ⟨0, [3, 8], none, none, none, []⟩, .exact "test"] := by
    simp [env, Environment.get?_insert]
  have hrearranged : ∀ key, Option.Rel (m.Rearranged key) (env.get? key) (other.get? key) := by
    intro key
    simp only [env, other, Environment.get?_insert, Environment.get?_empty]
    split_ifs with hkey
    · have hopen : ∀ c ∈ m.comparisons, c.lhs = key →
          (Candidate.version ⟨0, [3, 8], none, none, none, []⟩).compare c.comparator c.rhs =
            none := by
        simp only [m, comparisons, List.cons_append, List.nil_append, List.forall_mem_cons]
        refine ⟨fun _ => rfl, fun h => ?_, fun c hc => absurd hc List.not_mem_nil⟩
        exact absurd (h.trans hkey) (by decide)
      exact .some (.trans (.permute (List.Perm.swap _ _ _))
        (.trans (.drop hopen) (.duplicate (by simp))))
    · exact .none
  refine ⟨hrearranged, ?_, evaluate_candidates.2 m env other hrearranged⟩
  exact (evaluate_candidates.1 _ _ _ hget).1.mpr ⟨.exact "test", by simp, by decide⟩

end Marker

end EnvMarkers
