import EnvMarkers.Proofs.DeclaredEnvironments
import Mathlib.Data.List.DropRight
import Mathlib.Data.Set.Card

/-!
# Histories of environments

What is done to an environment (`Environment.Edit`) either is about a single name or puts another
environment in its place.  The candidates of a name come from the edits of this name alone, one
after another, since the environment was last replaced, and from what it was replaced by
(`Environment.replay`).  So each name has a history of its own, and whatever else an environment
says of its names agrees with it (`Environment.get?_afterAll_eq_replay`).

A single edit has an effect on each name that depends on the candidates of this name alone
(`Environment.Edit.get?_apply`), and in a replay the last edit has the same effect on what is found
from those before it (`Environment.replay_concat`).
-/

namespace EnvMarkers

namespace Environment

/-! ### Edits -/

/-- Something that is done to an environment. -/
inductive Edit where
  /-- An environment in which every name is free takes its place. -/
  | new
  /-- A name is bound to candidates, in place of those it had. -/
  | insert (key : String) (candidates : List Candidate)
  /-- A name is given a candidate more. -/
  | push (key : String) (candidate : Candidate)
  /-- A name is made free. -/
  | remove (key : String)
  /-- The environment of a list of bindings takes its place. -/
  | ofList (bindings : List (String × List Candidate))
  /-- The environment that a text declares takes its place.  A text that declares none leaves it as
  it is. -/
  | ofText (text : String)

/-- The environment after an edit. -/
def Edit.apply (libs : Libraries) (env : Environment) : Edit → Environment
  | new => empty
  | insert key candidates => env.insert key candidates
  | push key candidate => env.push key candidate
  | remove key => (env.remove key).2
  | ofList bindings => Environment.ofList bindings
  | ofText text =>
    match Environment.ofText libs text with
    | .ok declared => declared
    | .error _ => env

/-- The environment after some edits, of which the first one finds every name free. -/
def afterAll (libs : Libraries) (edits : List Edit) : Environment :=
  edits.foldl (Edit.apply libs) empty

variable {libs : Libraries}

theorem afterAll_concat (edits : List Edit) (e : Edit) :
    afterAll libs (edits ++ [e]) = e.apply libs (afterAll libs edits) := by
  rw [afterAll, List.foldl_append]
  rfl

/-! ### Declared candidates -/

/-- The candidates that a text declares for a name, which are those in the last member with this
name. -/
def declared? (libs : Libraries) (text key : String) : Option (List Candidate) :=
  match Json.ofText? text with
  | some (.object members) =>
    (members.reverse.lookup key).bind fun j =>
      (BindingDecl.ofJson? j).bind fun b => (b.compile libs key).toOption
  | _ => none

theorem get?_of_ofText {text : String} {env : Environment} (h : ofText libs text = .ok env)
    (key : String) : env.get? key = declared? libs text key := by
  rw [ofText] at h
  obtain ⟨decl, hdecl, hcompile⟩ := bind_eq_ok_iff.mp h
  obtain ⟨members, htext⟩ : ∃ members, Json.ofText? text = some (.object members) := by
    unfold EnvironmentDecl.ofText at hdecl
    split at hdecl
    · exact ⟨_, ‹_›⟩
    · cases hdecl
  have hmembers := (EnvironmentDecl.ofText_eq_ok_iff htext).mp hdecl
  rw [get?_of_compile hcompile, EnvironmentDecl.getElem?_of_ofMembers? hmembers, declared?, htext,
    Option.bind_assoc]

/-! ### The history of a name -/

namespace Edit

/-- Whether an edit puts another environment in place of the whole one. -/
def replaces (libs : Libraries) : Edit → Bool
  | new | ofList _ => true
  | ofText text => (Environment.ofText libs text).isOk
  | insert .. | push .. | remove _ => false

/-- The candidates of a name in the environment that an edit puts in place of another one. -/
def bound? (libs : Libraries) (key : String) : Edit → Option (List Candidate)
  | ofList bindings => bindings.reverse.lookup key
  | ofText text => declared? libs text key
  | _ => none

/-- Whether an edit is about the name `key` alone. -/
def isOf (key : String) : Edit → Bool
  | insert other _ | push other _ | remove other => key == other
  | new | ofList _ | ofText _ => false

/-- What an edit of a name makes of its candidates. -/
def revise (candidates : Option (List Candidate)) : Edit → Option (List Candidate)
  | insert _ others => some others
  | push _ candidate =>
    match candidates with
    | some candidates => some (candidates ++ [candidate])
    | none => some [candidate]
  | remove _ => none
  | new | ofList _ | ofText _ => candidates

/-- What an edit makes of the candidates of `key`, which are lost if the environment is replaced and
stay as they are if the edit is one of another name. -/
def effect (libs : Libraries) (key : String) (e : Edit) (candidates : Option (List Candidate)) :
    Option (List Candidate) :=
  if e.replaces libs then e.bound? libs key
  else if e.isOf key then e.revise candidates
  else candidates

/-- Whether an edit may have an effect on the candidates of `key`. -/
def concerns (libs : Libraries) (key : String) (e : Edit) : Bool :=
  e.replaces libs || e.isOf key

theorem effect_of_not_concerns {key : String} {e : Edit} (h : e.concerns libs key = false)
    (candidates : Option (List Candidate)) : e.effect libs key candidates = candidates := by
  obtain ⟨hreplaces, hkey⟩ := Bool.or_eq_false_iff.mp h
  rw [effect, hreplaces, hkey]
  rfl

/-- An edit has its effect on each name, whatever else the environment binds. -/
theorem get?_apply (e : Edit) (env : Environment) (key : String) :
    (e.apply libs env).get? key = e.effect libs key (env.get? key) := by
  cases e with
  | new => exact get?_empty key
  | insert other candidates =>
    have hget := get?_insert env other key candidates
    simpa [effect, apply, replaces, isOf, revise] using hget
  | push other candidate =>
    have hget := get?_push env other key candidate
    by_cases hkey : key = other
    · subst hkey
      cases hold : env.get? key with
      | none => simpa [effect, apply, replaces, isOf, revise, hold] using hget
      | some candidates => simpa [effect, apply, replaces, isOf, revise, hold] using hget
    · simpa [effect, apply, replaces, isOf, hkey] using hget
  | remove other =>
    have hget : (env.remove other).2.get? key = if key = other then none else env.get? key :=
      get?_erase env other key
    simpa [effect, apply, replaces, isOf, revise] using hget
  | ofList bindings => exact get?_ofList bindings key
  | ofText text =>
    cases htext : Environment.ofText libs text with
    | ok declared =>
      have hreplaces : (ofText text).replaces libs = true := by
        rw [replaces, htext]
        rfl
      have happly : (ofText text).apply libs env = declared := by rw [apply, htext]
      rw [happly, effect, if_pos hreplaces]
      exact get?_of_ofText htext key
    | error fault =>
      have hconcerns : (ofText text).concerns libs key = false := by
        rw [concerns, replaces, htext]
        rfl
      have happly : (ofText text).apply libs env = env := by rw [apply, htext]
      rw [happly, effect_of_not_concerns hconcerns]

end Edit

/-- The candidates of `key` after some edits, found by going through the edits of this name since
an edit last replaced the environment. -/
def replay (libs : Libraries) (key : String) (edits : List Edit) : Option (List Candidate) :=
  ((edits.rtakeWhile fun e => !e.replaces libs).filter (Edit.isOf key)).foldl Edit.revise
    ((edits.reverse.find? (Edit.replaces libs)).bind (Edit.bound? libs key))

/-- The last edit has its effect on what the edits before it have come to. -/
theorem replay_concat (key : String) (edits : List Edit) (e : Edit) :
    replay libs key (edits ++ [e]) = e.effect libs key (replay libs key edits) := by
  rw [replay, List.reverse_concat, List.rtakeWhile_concat, List.find?_cons, Edit.effect]
  cases hreplaces : e.replaces libs with
  | true => simp
  | false =>
    cases hkey : e.isOf key with
    | true => simp [hkey, replay]
    | false => simp [hkey, replay]

theorem get?_afterAll (edits : List Edit) (key : String) :
    (afterAll libs edits).get? key = replay libs key edits := by
  -- From the end, since the last edit acts on what those before it have left.
  induction edits using List.reverseRecOn with
  | nil => exact get?_empty key
  | append_singleton edits e ih => rw [afterAll_concat, Edit.get?_apply, ih, replay_concat]

/-- Edits that do not concern a name may be left out of its history. -/
theorem replay_filter (key : String) (edits : List Edit) :
    replay libs key (edits.filter (Edit.concerns libs key)) = replay libs key edits := by
  induction edits using List.reverseRecOn with
  | nil => rfl
  | append_singleton edits e ih =>
    rw [List.filter_append, List.filter_singleton, replay_concat]
    cases hconcerns : e.concerns libs key with
    | true => rw [cond_true, replay_concat, ih]
    | false => rw [cond_false, List.append_nil, ih, Edit.effect_of_not_concerns hconcerns]

/-- What had been there before a list of bindings took its place is gone.  Of the bindings of a name
in the list the last one counts. -/
example :
    replay libs "extra" [.push "extra" (.exact "dev"),
      .ofList [("extra", []), ("os_name", [.exact "nt"]), ("extra", [.exact "test"])],
      .remove "os_name", .push "extra" (.exact "docs")] = some [.exact "test", .exact "docs"] :=
  rfl

/-! ### Bound names -/

theorem mem_keys {env : Environment} {key : String} :
    key ∈ env.keys ↔ (env.get? key).isSome = true := by
  rw [← contains_eq_isSome, keys, Std.TreeMap.mem_keys, contains, Std.TreeMap.contains_iff_mem]

/-- Each bound name is listed once. -/
theorem count_keys (env : Environment) (key : String) :
    env.keys.count key = if (env.get? key).isSome then 1 else 0 := by
  have hnodup : env.keys.Nodup := Std.TreeMap.nodup_keys
  simp only [hnodup.count, mem_keys]

theorem encard_bound (env : Environment) :
    {key | (env.get? key).isSome = true}.encard = env.size := by
  have hkeys : {key | (env.get? key).isSome = true} = (env.keys.toFinset : Set String) := by
    ext key
    rw [Set.mem_ofPred_eq, Finset.mem_coe, List.mem_toFinset, mem_keys]
  have hnodup : env.keys.Nodup := Std.TreeMap.nodup_keys
  rw [hkeys, Set.encard_coe_eq_coe_finsetCard, List.toFinset_card_of_nodup hnodup, keys,
    Std.TreeMap.length_keys, size]

theorem isEmpty_iff (env : Environment) : env.isEmpty = true ↔ env.size = 0 := by
  rw [isEmpty, size, Std.TreeMap.isEmpty_eq_size_eq_zero, beq_iff_eq]

/-! ### All histories -/

/-- After any edits, the candidates of a name are those that the edits of this name have made of
what the environment was last replaced by, and leaving out the edits of all other names makes no
difference.  A name is bound if it has a list of candidates, even an empty one; the bound names are
listed once each and counted; and a name that is made free gives back the candidates it had. -/
theorem get?_afterAll_eq_replay (libs : Libraries) (edits : List Edit) :
    (∀ key, (afterAll libs edits).get? key = replay libs key edits) ∧
      (∀ key, (afterAll libs (edits.filter (Edit.concerns libs key))).get? key =
        (afterAll libs edits).get? key) ∧
      (∀ key, (afterAll libs edits).contains key = (replay libs key edits).isSome) ∧
      (∀ key, (afterAll libs edits).keys.count key =
        if (replay libs key edits).isSome then 1 else 0) ∧
      {key | (replay libs key edits).isSome = true}.encard = (afterAll libs edits).size ∧
      ((afterAll libs edits).isEmpty = true ↔ (afterAll libs edits).size = 0) ∧
      ∀ key, (afterAll libs edits).remove key =
        (replay libs key edits, afterAll libs (edits ++ [.remove key])) := by
  refine ⟨get?_afterAll edits, ?_, ?_, ?_, ?_, isEmpty_iff _, ?_⟩
  · intro key
    rw [get?_afterAll, get?_afterAll, replay_filter]
  · intro key
    rw [contains_eq_isSome, get?_afterAll]
  · intro key
    rw [count_keys, get?_afterAll]
  · rw [← encard_bound]
    simp only [get?_afterAll]
  · intro key
    rw [afterAll_concat, ← get?_afterAll]
    rfl

end Environment

end EnvMarkers
