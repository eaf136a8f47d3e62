import EnvMarkers.Environment.Builtin
import EnvMarkers.Json.Basic
import EnvMarkers.Proofs.CandidateSets
import EnvMarkers.Proofs.DeclaredFormat
import EnvMarkers.Proofs.ParseStages
import Mathlib.Data.List.Induction

/-!
# Reading declared environments

The text of an object is read if the value of each of its members is
(`EnvironmentDecl.exists_ofMembers?_iff`).  What the last member of a name declares counts
(`EnvironmentDecl.getElem?_of_ofMembers?`), and it is compiled to the candidates of that name
(`Environment.get?_of_compile`).  So the question whether an environment is read as it is written is
one about the values of its members, and arrays of strings are, unless a string stands alone in one
(`EnvironmentDecl.ofText_asWritten`).
-/

namespace EnvMarkers

/-! ### Members -/

/-- The entries of a map are found among each other in any order. -/
theorem lookup_of_perm_toList {β : Type} {t : Std.TreeMap String β} {entries : List (String × β)}
    (h : entries.Perm t.toList) (key : String) : entries.lookup key = t[key]? := by
  cases hlookup : entries.lookup key with
  | none =>
    rw [List.lookup_eq_none_iff] at hlookup
    refine (Option.eq_none_iff_forall_ne_some.mpr fun b hb => ?_).symm
    have hmem := Std.TreeMap.mem_toList_iff_getElem?_eq_some.mpr hb
    simpa using hlookup (key, b) (h.mem_iff.mpr hmem)
  | some b =>
    have hmem := h.mem_iff.mp (mem_of_lookup hlookup)
    exact (Std.TreeMap.mem_toList_iff_getElem?_eq_some.mp hmem).symm

namespace EnvironmentDecl

theorem ofMembers?_concat (members : List (String × Json)) (m : String × Json) :
    ofMembers? (members ++ [m]) = (ofMembers? members).bind fun decl =>
      (BindingDecl.ofJson? m.2).map fun b => ⟨decl.bindings.insert m.1 b⟩ := by
  simp only [ofMembers?, List.foldlM_append, List.foldlM_cons, List.foldlM_nil]
  simp [Option.bind_assoc, Option.map_eq_bind]

/-- The last member of a name counts. -/
theorem getElem?_of_ofMembers? {members : List (String × Json)} {decl : EnvironmentDecl}
    (h : ofMembers? members = some decl) (key : String) :
    decl.bindings[key]? = (members.reverse.lookup key).bind BindingDecl.ofJson? := by
  induction members using List.reverseRecOn generalizing decl with
  | nil =>
    obtain rfl := Option.some.inj h
    simp
  | append_singleton members m ih =>
    rw [ofMembers?_concat] at h
    obtain ⟨decl', hdecl', h⟩ := Option.bind_eq_some_iff.mp h
    obtain ⟨b, hb, rfl⟩ := Option.map_eq_some_iff.mp h
    rw [lookup_reverse_concat]
    simp only [Std.TreeMap.getElem?_insert, Std.LawfulEqCmp.compare_eq_iff_eq, ih hdecl']
    by_cases hkey : key = m.1
    · rw [if_pos hkey.symm, if_pos hkey, Option.bind_some, hb]
    · rw [if_neg (Ne.symm hkey), if_neg hkey]

/-- An object is read if the value of each of its members is. -/
theorem exists_ofMembers?_iff {members : List (String × Json)} :
    (∃ decl, ofMembers? members = some decl) ↔
      ∀ m ∈ members, ∃ b, BindingDecl.ofJson? m.2 = some b := by
  induction members using List.reverseRecOn with
  | nil => exact ⟨fun _ _ hm => (nomatch hm), fun _ => ⟨⟨∅⟩, rfl⟩⟩
  | append_singleton members m ih =>
    simp only [ofMembers?_concat, Option.bind_eq_some_iff, Option.map_eq_some_iff,
      List.forall_mem_append, List.forall_mem_singleton, ← ih]
    constructor
    · rintro ⟨-, decl, hdecl, b, hb, -⟩
      exact ⟨⟨decl, hdecl⟩, b, hb⟩
    · rintro ⟨⟨decl, hdecl⟩, b, hb⟩
      exact ⟨_, decl, hdecl, b, hb, rfl⟩

theorem ofText_eq_ok_iff {libs : Libraries} {text : String} {members : List (String × Json)}
    (htext : Json.ofText? text = some (.object members)) {decl : EnvironmentDecl} :
    ofText libs text = .ok decl ↔ ofMembers? members = some decl := by
  simp only [ofText, htext]
  cases ofMembers? members with
  | none => exact ⟨nofun, nofun⟩
  | some decl' =>
    exact ⟨fun h => congrArg _ (Except.ok.inj h), fun h => congrArg _ (Option.some.inj h)⟩

end EnvironmentDecl

/-! ### Compilation -/

namespace Environment

variable {libs : Libraries}

theorem compileList_concat (bindings : List (String × BindingDecl)) (b : String × BindingDecl) :
    compileList libs (bindings ++ [b]) = compileList libs bindings >>= fun env =>
      b.2.compile libs b.1 >>= fun candidates => .ok (env.insert b.1 candidates) := by
  simp only [compileList, List.foldlM_append, List.foldlM_cons, List.foldlM_nil, bind_pure]
  rfl

theorem get?_of_compileList {bindings : List (String × BindingDecl)} {env : Environment}
    (h : compileList libs bindings = .ok env) (key : String) :
    env.get? key = (bindings.reverse.lookup key).bind fun b => (b.compile libs key).toOption := by
  induction bindings using List.reverseRecOn generalizing env with
  | nil =>
    obtain rfl := Except.ok.inj h
    exact get?_empty key
  | append_singleton bindings b ih =>
    rw [compileList_concat] at h
    obtain ⟨env', henv', h⟩ := bind_eq_ok_iff.mp h
    obtain ⟨candidates, hcandidates, h⟩ := bind_eq_ok_iff.mp h
    obtain rfl := Except.ok.inj h
    rw [get?_insert, ih henv', lookup_reverse_concat]
    by_cases hkey : key = b.1
    · rw [if_pos hkey, if_pos hkey, hkey, Option.bind_some, hcandidates]
      rfl
    · rw [if_neg hkey, if_neg hkey]

theorem exists_compileList {bindings : List (String × BindingDecl)}
    (h : ∀ b ∈ bindings, ∃ candidates, b.2.compile libs b.1 = .ok candidates) :
    ∃ env, compileList libs bindings = .ok env := by
  induction bindings using List.reverseRecOn with
  | nil => exact ⟨empty, rfl⟩
  | append_singleton bindings b ih =>
    rw [List.forall_mem_append, List.forall_mem_singleton] at h
    obtain ⟨env, henv⟩ := ih h.1
    obtain ⟨candidates, hcandidates⟩ := h.2
    refine ⟨env.insert b.1 candidates, ?_⟩
    rw [compileList_concat]
    exact bind_eq_ok_iff.mpr ⟨env, henv, bind_eq_ok_iff.mpr ⟨candidates, hcandidates, rfl⟩⟩

theorem get?_of_compile {decl : EnvironmentDecl} {env : Environment}
    (h : compile libs decl = .ok env) (key : String) :
    env.get? key = decl.bindings[key]?.bind fun b => (b.compile libs key).toOption := by
  rw [get?_of_compileList h, lookup_of_perm_toList (List.reverse_perm _)]

theorem exists_compile {decl : EnvironmentDecl}
    (h : ∀ key (b : BindingDecl), decl.bindings[key]? = some b →
      ∃ candidates, b.compile libs key = .ok candidates) :
    ∃ env, compile libs decl = .ok env :=
  exists_compileList fun b hb => h b.1 b.2 (Std.TreeMap.mem_toList_iff_getElem?_eq_some.mp hb)

end Environment

/-! ### Arrays of strings -/

/-- The array of some strings. -/
def Json.ofStrings (strings : List String) : Json :=
  .array (strings.map .string)

namespace BindingDecl

theorem not_misread_ofStrings {strings : List String} (h : strings.length ≠ 1) :
    ¬ Misread (.ofStrings strings) := by
  rintro (⟨c, hc⟩ | ⟨items, hitems, -, item, hitem, c, hc⟩)
  · match strings, hc with
    | [s], .pattern _ => exact h rfl
  · obtain rfl := Json.array.inj hitems
    obtain ⟨s, -, rfl⟩ := List.mem_map.mp hitem
    cases hc

theorem writes_ofStrings (strings : List String) :
    Writes (.ofStrings strings) (.many (strings.map .exact)) := by
  refine .many (List.forall₂_map_left_iff.mpr (List.forall₂_map_right_iff.mpr ?_))
  exact List.forall₂_same.mpr fun s _ => .exact s

theorem ofJson?_ofStrings {strings : List String} (h : strings.length ≠ 1) :
    ofJson? (.ofStrings strings) = some (.many (strings.map .exact)) :=
  (ofJson?_eq_some_iff (not_misread_ofStrings h)).mpr (writes_ofStrings strings)

theorem compile_exact (libs : Libraries) (key : String) (strings : List String) :
    (many (strings.map .exact)).compile libs key = .ok (strings.map .exact) := by
  rw [compile, candidates, List.mapM_map]
  exact List.mapM_pure

end BindingDecl

/-- Texts decide that something is equal to one of them. -/
theorem Comparison.verdict_exact {strings : List String} (hne : strings ≠ []) (key rhs : String) :
    Comparison.verdict ⟨key, .equal, rhs⟩ (strings.map .exact) = some (decide (rhs ∈ strings)) := by
  have hsays : ∀ b, (∃ x ∈ strings.map Candidate.exact, x.compare .equal rhs = some b) ↔
      ∃ s ∈ strings, (s == rhs) = b := by
    intro b
    simp only [List.mem_map, exists_exists_and_eq_and, Candidate.compare,
      Candidate.decideEquality, Option.some.injEq]
  by_cases hmem : rhs ∈ strings
  · rw [decide_eq_true hmem, verdict_eq_some_true_iff, hsays]
    exact ⟨rhs, hmem, beq_self_eq_true rhs⟩
  · have hother : ∀ s ∈ strings, (s == rhs) = false := by
      intro s hs
      exact beq_eq_false_iff_ne.mpr fun heq => hmem (heq ▸ hs)
    rw [decide_eq_false hmem, verdict_eq_some_false_iff, hsays, hsays]
    obtain ⟨s, hs⟩ := List.exists_mem_of_ne_nil strings hne
    refine ⟨?_, s, hs, hother s hs⟩
    rintro ⟨t, ht, htrue⟩
    rw [hother t ht] at htrue
    cases htrue

namespace Environment

variable {libs : Libraries} {text : String} {members : List (String × Json)}

theorem ofText_eq_ok_iff (htext : Json.ofText? text = some (.object members)) {env : Environment} :
    ofText libs text = .ok env ↔
      ∃ decl, EnvironmentDecl.ofMembers? members = some decl ∧ compile libs decl = .ok env := by
  simp only [ofText, bind_eq_ok_iff, EnvironmentDecl.ofText_eq_ok_iff htext]

theorem exists_ofText_of_ofStrings (htext : Json.ofText? text = some (.object members))
    (h : ∀ m ∈ members, ∃ strings, strings.length ≠ 1 ∧ m.2 = .ofStrings strings) :
    ∃ env, ofText libs text = .ok env := by
  have hread : ∀ m ∈ members, ∃ strings : List String,
      BindingDecl.ofJson? m.2 = some (.many (strings.map .exact)) := by
    intro m hm
    obtain ⟨strings, hlength, hm⟩ := h m hm
    exact ⟨strings, hm ▸ BindingDecl.ofJson?_ofStrings hlength⟩
  obtain ⟨decl, hdecl⟩ := EnvironmentDecl.exists_ofMembers?_iff.mpr fun m hm =>
    (hread m hm).elim fun strings hm => ⟨_, hm⟩
  have hcompile : ∀ key (b : BindingDecl), decl.bindings[key]? = some b →
      ∃ candidates, b.compile libs key = .ok candidates := by
    intro key b hb
    rw [EnvironmentDecl.getElem?_of_ofMembers? hdecl] at hb
    obtain ⟨j, hj, hb⟩ := Option.bind_eq_some_iff.mp hb
    obtain ⟨strings, hstrings⟩ := hread _ (List.mem_reverse.mp (mem_of_lookup hj))
    obtain rfl := Option.some.inj (hstrings.symm.trans hb)
    exact ⟨_, BindingDecl.compile_exact libs key strings⟩
  obtain ⟨env, henv⟩ := exists_compile hcompile
  exact ⟨env, (ofText_eq_ok_iff htext).mpr ⟨decl, hdecl, henv⟩⟩

theorem get?_of_ofStrings (htext : Json.ofText? text = some (.object members))
    {env : Environment} (henv : ofText libs text = .ok env) {key : String} {strings : List String}
    (hlength : strings.length ≠ 1)
    (hkey : members.reverse.lookup key = some (.ofStrings strings)) :
    env.get? key = some (strings.map .exact) := by
  obtain ⟨decl, hdecl, hcompile⟩ := (ofText_eq_ok_iff htext).mp henv
  rw [get?_of_compile hcompile, EnvironmentDecl.getElem?_of_ofMembers? hdecl, hkey,
    Option.bind_some, BindingDecl.ofJson?_ofStrings hlength, Option.bind_some,
    BindingDecl.compile_exact]
  rfl

end Environment

/-! ### Texts -/

namespace EnvironmentDecl

/-- A value is read as what it writes exactly if no pattern without names is taken for a candidate
in it.  A text with such values alone is read if all of them write something, and then declares what
they write.  In particular the candidates of a name with an array of strings are these strings, so
that the environment knows what equals one of them, unless the array has a single string. -/
theorem ofText_asWritten (libs : Libraries) {text : String} {members : List (String × Json)}
    (htext : Json.ofText? text = some (.object members)) :
    (∀ j, BindingDecl.ReadsAsWritten j ↔ ¬ BindingDecl.Misread j) ∧
    ((∀ m ∈ members, ¬ BindingDecl.Misread m.2) →
      ((∃ decl, ofText libs text = .ok decl) ↔ ∀ m ∈ members, ∃ b, BindingDecl.Writes m.2 b) ∧
      ∀ decl, ofText libs text = .ok decl → ∀ key b, decl.bindings[key]? = some b ↔
        ∃ j, members.reverse.lookup key = some j ∧ BindingDecl.Writes j b) ∧
    ((∀ m ∈ members, ∃ strings, strings.length ≠ 1 ∧ m.2 = .ofStrings strings) →
      ∃ env, Environment.ofText libs text = .ok env) ∧
    ∀ env, Environment.ofText libs text = .ok env → ∀ key strings, strings.length ≠ 1 →
      members.reverse.lookup key = some (.ofStrings strings) →
        env.get? key = some (strings.map .exact) ∧
        (strings ≠ [] → ∀ rhs,
          env.answer ⟨key, .equal, rhs⟩ = some (decide (rhs ∈ strings))) := by
  have hread : ∀ decl, ofText libs text = .ok decl ↔ ofMembers? members = some decl :=
    fun decl => ofText_eq_ok_iff htext
  refine ⟨BindingDecl.readsAsWritten_iff, fun hmisread => ⟨?_, ?_⟩,
    Environment.exists_ofText_of_ofStrings htext, ?_⟩
  · simp only [hread, exists_ofMembers?_iff]
    exact forall₂_congr fun m hm =>
      exists_congr fun b => BindingDecl.ofJson?_eq_some_iff (hmisread m hm)
  · intro decl hdecl key b
    rw [getElem?_of_ofMembers? ((hread decl).mp hdecl), Option.bind_eq_some_iff]
    refine exists_congr fun j => and_congr_right fun hj => ?_
    exact BindingDecl.ofJson?_eq_some_iff (hmisread _ (List.mem_reverse.mp (mem_of_lookup hj)))
  · intro env henv key strings hlength hkey
    have hget := Environment.get?_of_ofStrings htext henv hlength hkey
    refine ⟨hget, fun hne rhs => ?_⟩
    rw [Environment.answer_eq, hget, Option.bind_some, Comparison.verdict_exact hne]

theorem ofText_asWritten_strings :
    ∃ env, Environment.ofText .terse "\x7b\"extra\": [\"dev\", \"test\"]\x7d" = .ok env ∧
      env.get? "extra" = some [.exact "dev", .exact "test"] ∧
      env.answer ⟨"extra", .equal, "test"⟩ = some true ∧
      env.answer ⟨"extra", .equal, "tested"⟩ = some false := by
  have htext : Json.ofText? "\x7b\"extra\": [\"dev\", \"test\"]\x7d" =
      some (.object [("extra", .ofStrings ["dev", "test"])]) := by rfl
  obtain ⟨-, -, hexists, hstrings⟩ := ofText_asWritten .terse htext
  obtain ⟨env, henv⟩ := hexists (by simpa using ⟨["dev", "test"], by decide, rfl⟩)
  obtain ⟨hget, hanswer⟩ := hstrings env henv "extra" ["dev", "test"] (by decide) rfl
  refine ⟨env, henv, hget, ?_, ?_⟩
  · rw [hanswer (by decide)]
    decide
  · rw [hanswer (by decide)]
    decide

/-- A string that stands alone in an array is read as a pattern, which other texts match too. -/
theorem ofText_single_string :
    Json.ofText? "\x7b\"extra\": [\"test\"]\x7d" =
        some (.object [("extra", .ofStrings ["test"])]) ∧
      BindingDecl.Writes (.ofStrings ["test"]) (.many [.exact "test"]) ∧
      (∃ decl, ofText .terse "\x7b\"extra\": [\"test\"]\x7d" = .ok decl ∧
        decl.bindings["extra"]? = some (.one (.pattern "test" 0))) ∧
      ∃ env, Environment.ofText .terse "\x7b\"extra\": [\"test\"]\x7d" = .ok env ∧
        env.answer ⟨"extra", .equal, "tested"⟩ = some true := by
  have htext : Json.ofText? "\x7b\"extra\": [\"test\"]\x7d" =
      some (.object [("extra", .ofStrings ["test"])]) := by rfl
  refine ⟨htext, BindingDecl.writes_ofStrings ["test"], ?_, ?_⟩
  · obtain ⟨decl, hdecl⟩ : ∃ decl, ofMembers? [("extra", .ofStrings ["test"])] = some decl :=
      ⟨_, rfl⟩
    refine ⟨decl, (ofText_eq_ok_iff htext).mpr hdecl, ?_⟩
    rw [getElem?_of_ofMembers? hdecl]
    rfl
  · refine ⟨_, (Environment.ofText_eq_ok_iff htext).mpr ⟨_, rfl, rfl⟩, ?_⟩
    rfl

end EnvironmentDecl

end EnvMarkers
