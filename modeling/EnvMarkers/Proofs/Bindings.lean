import EnvMarkers.Environment.Basic
import Mathlib.Data.List.Induction
import Mathlib.Data.List.Pairwise

/-!
# Environments as sets of bindings

An environment is determined by what `Environment.get?` says of each name.  Here this is worked
out for the environment of a list of bindings, where the last binding of a name counts
(`get?_ofList`), and for the union of several environments that have no name in common, where each
name has the candidates that the one environment with that name gives it (`get?_unionAll_iff`).
-/

namespace EnvMarkers

theorem mem_of_lookup {β : Type} {entries : List (String × β)} {key : String} {b : β}
    (h : entries.lookup key = some b) : (key, b) ∈ entries := by
  obtain ⟨before, after, hsplit, -⟩ := List.lookup_eq_some_iff.mp h
  rw [hsplit]
  exact List.mem_append_right _ List.mem_cons_self

/-- From the end, the last entry is looked at first. -/
theorem lookup_reverse_concat {β : Type} (entries : List (String × β)) (e : String × β)
    (key : String) : (entries ++ [e]).reverse.lookup key =
      if key = e.1 then some e.2 else entries.reverse.lookup key := by
  rw [List.reverse_concat, List.lookup_cons]
  by_cases h : key = e.1
  · rw [if_pos h, beq_iff_eq.mpr h]
  · rw [if_neg h, beq_eq_false_iff_ne.mpr h]

namespace Environment

/-! ### Environments of lists -/

/-- A list with one more binding at its end. -/
theorem ofList_concat (bindings : List (String × List Candidate)) (b : String × List Candidate) :
    ofList (bindings ++ [b]) = (ofList bindings).insert b.1 b.2 := by
  simp only [ofList, List.foldl_append, List.foldl_cons, List.foldl_nil]

/-- The last binding of a name counts. -/
theorem get?_ofList (bindings : List (String × List Candidate)) (key : String) :
    (ofList bindings).get? key = bindings.reverse.lookup key := by
  -- The list is built up at its end, where the environment is.
  induction bindings using List.reverseRecOn with
  | nil => exact get?_empty key
  | append_singleton bindings b ih =>
    rw [ofList_concat, get?_insert, ih, lookup_reverse_concat]

/-- The bindings of an environment are what `get?` finds. -/
theorem mem_toList {env : Environment} {key : String} {candidates : List Candidate} :
    (key, candidates) ∈ env.toList ↔ env.get? key = some candidates :=
  Std.TreeMap.mem_toList_iff_getElem?_eq_some

/-! ### Unions -/

/-- No name is bound in both environments. -/
def Disjoint (env other : Environment) : Prop :=
  ∀ key, env.contains key → ¬ other.contains key

/-- All bindings of several environments; where they share a name, the last one counts. -/
def unionAll (envs : List Environment) : Environment :=
  ofList (envs.flatMap toList)

instance : Std.Symm Disjoint where
  symm _ _ h key ho he := h key he ho

/-- Disjoint environments do not both have candidates for a name. -/
theorem Disjoint.not_both {env other : Environment} (h : env.Disjoint other) {key : String}
    {first second : List Candidate} (hfirst : env.get? key = some first)
    (hsecond : other.get? key = some second) : False := by
  refine h key ?_ ?_
  · rw [contains_eq_isSome, hfirst]
    rfl
  · rw [contains_eq_isSome, hsecond]
    rfl

/-- Among disjoint environments the candidates of a name do not depend on where they are found. -/
theorem get?_unique {envs : List Environment} (h : envs.Pairwise Disjoint) {env other : Environment}
    (henv : env ∈ envs) (hother : other ∈ envs) {key : String} {first second : List Candidate}
    (hfirst : env.get? key = some first) (hsecond : other.get? key = some second) :
    first = second := by
  by_cases heq : env = other
  · rw [heq, hsecond] at hfirst
    exact (Option.some.inj hfirst).symm
  · have hdisjoint : env.Disjoint other := h.forall henv hother heq
    exact (hdisjoint.not_both hfirst hsecond).elim

/-- A name has a list of candidates in the union of disjoint environments exactly if it has it in
one of them. -/
theorem get?_unionAll_iff {envs : List Environment} (h : envs.Pairwise Disjoint) {key : String}
    {candidates : List Candidate} :
    (unionAll envs).get? key = some candidates ↔
      ∃ env ∈ envs, env.get? key = some candidates := by
  have hmem : ∀ found, (key, found) ∈ (envs.flatMap toList).reverse ↔
      ∃ env ∈ envs, env.get? key = some found := by
    intro found
    simp only [List.mem_reverse, List.mem_flatMap, mem_toList]
  rw [unionAll, get?_ofList]
  constructor
  · intro hlookup
    exact (hmem candidates).mp (mem_of_lookup hlookup)
  · rintro ⟨env, henv, hget⟩
    -- The name is bound somewhere, so that the lookup finds something, which is the same.
    have hbound := (hmem candidates).mpr ⟨env, henv, hget⟩
    obtain ⟨found, hfound⟩ := Option.isSome_iff_exists.mp
      (List.lookup_isSome_iff.mpr ⟨_, hbound, beq_self_eq_true key⟩)
    obtain ⟨other, hother, hget'⟩ := (hmem found).mp (mem_of_lookup hfound)
    rw [hfound, get?_unique h hother henv hget' hget]

end Environment

end EnvMarkers
