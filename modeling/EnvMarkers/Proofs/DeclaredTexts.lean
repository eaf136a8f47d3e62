import EnvMarkers.Proofs.DeclaredEnvironments
import EnvMarkers.Proofs.JsonValues

/-!
# Writing declared environments

A declared environment is written as an object with a member for each name, in any order
(`EnvironmentDecl.toJson`), and as any text of this object.  What is read of such a text is the
declared environment again, but for the lists of a single text: these come back as patterns
(`EnvironmentDecl.ofText_written`), since an array of a single string is one.

No other value that is written is misread (`BindingDecl.misread_toJson_iff`).  Neither a string nor
an object is a pattern without names, and arrays of candidates hold nothing else.
-/

namespace EnvMarkers

/-! ### Candidates -/

namespace CandidateDecl

/-- The value that writes a candidate. -/
def toJson : CandidateDecl → Json
  | exact text => .string text
  | pattern source flags =>
    .object [("pattern", .string source), ("flags", .number (toString flags.toNat))]
  | version text => .object [("version", .string text)]

theorem decimalValue_toDigits (n : Nat) : Text.decimalValue (Nat.toDigits 10 n) = n := by
  have hdigits : ∀ {ds : List Char}, (∀ d ∈ ds, d.isDigit = true) → ∀ n,
      ds.foldl (fun n d => 10 * n + Text.digitValue d) n = Nat.ofDigitChars 10 ds n := by
    intro ds hds
    induction ds with
    | nil => exact fun n => Nat.ofDigitChars_nil.symm
    | cons d ds ih =>
      intro n
      rw [List.forall_mem_cons] at hds
      rw [List.foldl_cons, ih hds.2, Nat.ofDigitChars_cons, Text.digitValue, if_pos hds.1]
  rw [Text.decimalValue, hdigits fun d => Nat.isDigit_of_mem_toDigits (by decide) (by decide),
    Nat.ofDigitChars_ten_toDigits]

theorem writesFlags_toString (n : UInt32) : WritesFlags (toString n.toNat) n := by
  rw [WritesFlags, Nat.toString_eq_ofList_toDigits, String.toList_ofList]
  refine ⟨List.all_eq_true.mpr fun d => ?_, decimalValue_toDigits n.toNat⟩
  exact Nat.isDigit_of_mem_toDigits (by decide) (by decide)

/-- No number but zero is written with a zero in front. -/
theorem head_toDigits {n : Nat} (h : 0 < n) : ∃ d ds, Nat.toDigits 10 n = d :: ds ∧ d ≠ '0' := by
  induction n using Nat.strongRecOn with
  | ind n ih =>
    rcases Nat.lt_or_ge n 10 with hlt | hge
    · have hdigit : ∀ n < 10, 0 < n → Nat.digitChar n ≠ '0' := by decide
      exact ⟨_, _, Nat.toDigits_of_lt_base hlt, hdigit n hlt h⟩
    · obtain ⟨d, ds, hds, hne⟩ := ih (n / 10) (by omega) (by omega)
      rw [Nat.toDigits_of_base_le (by decide) hge, hds]
      exact ⟨d, _, List.cons_append, hne⟩

theorem isNumber_toString (n : Nat) : JsonToken.isNumber (toString n).toList = true := by
  rw [Nat.toString_eq_ofList_toDigits, String.toList_ofList]
  have hdigits : ∀ d ∈ Nat.toDigits 10 n, d.isDigit = true :=
    fun d => Nat.isDigit_of_mem_toDigits (by decide) (by decide)
  rcases Nat.eq_zero_or_pos n with rfl | hpos
  · rfl
  · obtain ⟨d, ds, hds, hne⟩ := head_toDigits hpos
    rw [hds, List.forall_mem_cons] at hdigits
    rw [hds]
    exact JsonToken.isNumber_of_isDigit hdigits.1 hdigits.2 fun hzero => absurd hzero hne

theorem writes_toJson (c : CandidateDecl) : Writes c.toJson c := by
  cases c with
  | exact text => exact .exact text
  | pattern source flags => exact .flags (.refl _) (writesFlags_toString flags)
  | version text => exact .version text

theorem not_positional_toJson (c c' : CandidateDecl) : ¬ Positional c.toJson c' := by
  cases c <;> exact nofun

theorem writable_toJson (c : CandidateDecl) (n : Nat) : Json.Writable (n + 1) c.toJson := by
  cases c with
  | exact text => exact .string text
  | pattern source flags =>
    have hflags : Json.Writable n (.number (toString flags.toNat)) :=
      .number (isNumber_toString flags.toNat)
    refine .object fun m hm => ?_
    rcases List.mem_pair.mp hm with rfl | rfl
    · exact .string source
    · exact hflags
  | version text =>
    refine .object fun m hm => ?_
    obtain rfl := List.mem_singleton.mp hm
    exact .string text

end CandidateDecl

/-! ### What is declared for a name -/

namespace BindingDecl

/-- The value that writes what is declared for a name. -/
def toJson : BindingDecl → Json
  | one c => c.toJson
  | many cs => .array (cs.map CandidateDecl.toJson)

theorem writes_toJson (b : BindingDecl) : Writes b.toJson b := by
  cases b with
  | one c => exact .one c.writes_toJson
  | many cs =>
    refine .many (List.forall₂_map_left_iff.mpr ?_)
    exact List.forall₂_same.mpr fun c _ => c.writes_toJson

theorem writable_toJson (b : BindingDecl) (n : Nat) : Json.Writable (n + 2) b.toJson := by
  cases b with
  | one c => exact c.writable_toJson (n + 1)
  | many cs =>
    refine .array fun v hv => ?_
    obtain ⟨c, -, rfl⟩ := List.mem_map.mp hv
    exact c.writable_toJson n

/-- Only the array of a single string is a pattern without names: a second item would have to be a
number. -/
theorem eq_exact_of_positional {cs : List CandidateDecl} {c : CandidateDecl}
    (h : CandidateDecl.Positional (.array (cs.map CandidateDecl.toJson)) c) :
    ∃ text, cs = [.exact text] := by
  generalize hitems : cs.map CandidateDecl.toJson = items at h
  cases h with
  | pattern source =>
    obtain ⟨c, rfl, hc⟩ := List.map_eq_singleton_iff.mp hitems
    cases c with
    | exact text => exact ⟨text, rfl⟩
    | pattern _ _ => cases hc
    | version _ => cases hc
  | flags source hn =>
    obtain ⟨c, cs, rfl, -, hrest⟩ := List.map_eq_cons_iff.mp hitems
    obtain ⟨c', rfl, hc'⟩ := List.map_eq_singleton_iff.mp hrest
    cases c' <;> cases hc'

/-- Of what is written for a name, only the array of a single string is misread. -/
theorem misread_toJson_iff (b : BindingDecl) :
    Misread b.toJson ↔ ∃ text, b = .many [.exact text] := by
  constructor
  · intro h
    cases b with
    | one c =>
      rcases h with ⟨c', hc⟩ | ⟨items, hitems, -⟩
      · exact absurd hc (c.not_positional_toJson c')
      · cases c <;> cases hitems
    | many cs =>
      rcases h with ⟨c', hc⟩ | ⟨items, hitems, -, item, hitem, c', hc⟩
      · obtain ⟨text, rfl⟩ := eq_exact_of_positional hc
        exact ⟨text, rfl⟩
      · obtain rfl := Json.array.inj hitems
        obtain ⟨c, -, rfl⟩ := List.mem_map.mp hitem
        exact absurd hc (c.not_positional_toJson c')
  · rintro ⟨text, rfl⟩
    exact .inl ⟨_, .pattern text⟩

theorem ofJson?_toJson {b : BindingDecl} (h : ∀ text, b ≠ .many [.exact text]) :
    ofJson? b.toJson = some b := by
  refine (ofJson?_eq_some_iff fun hmisread => ?_).mpr b.writes_toJson
  obtain ⟨text, hb⟩ := (misread_toJson_iff b).mp hmisread
  exact h text hb

theorem ofJson?_toJson_single (text : String) :
    ofJson? (many [.exact text]).toJson = some (.one (.pattern text 0)) :=
  rfl

theorem exists_ofJson?_toJson (b : BindingDecl) : ∃ b', ofJson? b.toJson = some b' := by
  by_cases h : ∃ text, b = .many [.exact text]
  · obtain ⟨text, rfl⟩ := h
    exact ⟨_, ofJson?_toJson_single text⟩
  · exact ⟨b, ofJson?_toJson fun text hb => h ⟨text, hb⟩⟩

end BindingDecl

/-! ### Declared environments -/

theorem lookup_map {β γ : Type} (f : β → γ) (l : List (String × β)) (key : String) :
    (l.map fun p => (p.1, f p.2)).lookup key = (l.lookup key).map f := by
  induction l with
  | nil => rfl
  | cons p l ih =>
    rw [List.map_cons, List.lookup_cons, List.lookup_cons, ih]
    cases key == p.1 <;> rfl

namespace EnvironmentDecl

/-- The value that writes some names with what is declared for them. -/
def toJson (bindings : List (String × BindingDecl)) : Json :=
  .object (bindings.map fun p => (p.1, p.2.toJson))

theorem writable_toJson (bindings : List (String × BindingDecl)) :
    Json.Writable Json.maxDepth (toJson bindings) := by
  refine .object fun m hm => ?_
  obtain ⟨p, -, rfl⟩ := List.mem_map.mp hm
  exact p.2.writable_toJson 124

/-- What is read of the value that writes some names. -/
theorem exists_ofMembers?_toJson (bindings : List (String × BindingDecl)) :
    ∃ read, ofMembers? (bindings.map fun p => (p.1, p.2.toJson)) = some read ∧ ∀ key,
      read.bindings[key]? = (bindings.reverse.lookup key).bind fun b =>
        BindingDecl.ofJson? b.toJson := by
  obtain ⟨read, hread⟩ : ∃ read, ofMembers? (bindings.map fun p => (p.1, p.2.toJson)) =
      some read := by
    refine exists_ofMembers?_iff.mpr fun m hm => ?_
    obtain ⟨p, -, rfl⟩ := List.mem_map.mp hm
    exact p.2.exists_ofJson?_toJson
  refine ⟨read, hread, fun key => ?_⟩
  rw [getElem?_of_ofMembers? hread, ← List.map_reverse, lookup_map, Option.bind_map]
  rfl

/-- A declared environment that is written with its members in any order, as the text without white
space or as any other text of the same object, is read from it again, except that a list of a single
text comes back as a pattern without flags. -/
theorem ofText_written (libs : Libraries) {decl : EnvironmentDecl}
    {bindings : List (String × BindingDecl)}
    (hbindings : bindings.Perm decl.bindings.toList) :
    JsonToken.Layout (toJson bindings).tokens (toJson bindings).render.toList ∧
    ∀ text : String, JsonToken.Layout (toJson bindings).tokens text.toList →
      ∃ read, ofText libs text = .ok read ∧ ∀ key : String,
        (∀ s, decl.bindings[key]? = some (.many [.exact s]) →
          read.bindings[key]? = some (.one (.pattern s 0))) ∧
        ((∀ s, decl.bindings[key]? ≠ some (.many [.exact s])) →
          read.bindings[key]? = decl.bindings[key]?) := by
  have hwritable := writable_toJson bindings
  refine ⟨Json.layout_render hwritable, fun text htext => ?_⟩
  have hobject := Json.ofText?_of_layout hwritable htext
  obtain ⟨read, hread, hlookup⟩ := exists_ofMembers?_toJson bindings
  have hperm : bindings.reverse.Perm decl.bindings.toList :=
    (List.reverse_perm bindings).trans hbindings
  refine ⟨read, (ofText_eq_ok_iff hobject).mpr hread, fun key => ?_⟩
  rw [hlookup, lookup_of_perm_toList hperm]
  constructor
  · intro s hs
    rw [hs]
    exact BindingDecl.ofJson?_toJson_single s
  · intro hne
    cases hkey : decl.bindings[key]? with
    | none => rfl
    | some b => exact BindingDecl.ofJson?_toJson fun s hb => hne s (by rw [hkey, hb])

theorem ofText_written_single_text :
    ∃ read, ofText .terse
        "\x7b\"os_name\":\x7b\"pattern\":\"n.\",\"flags\":2\x7d,\"extra\":[\"a\\\"b\"]\x7d" =
          .ok read ∧
      read.bindings["os_name"]? = some (.one (.pattern "n." 2)) ∧
      read.bindings["extra"]? = some (.one (.pattern "a\"b" 0)) := by
  let bindings : List (String × BindingDecl) :=
    [("os_name", .one (.pattern "n." 2)), ("extra", .many [.exact "a\"b"])]
  let decl : EnvironmentDecl := ⟨Std.TreeMap.ofList bindings⟩
  have hperm : bindings.Perm decl.bindings.toList := .swap ..
  obtain ⟨hlayout, hread⟩ := ofText_written .terse hperm
  have hrender : (toJson bindings).render =
      "\x7b\"os_name\":\x7b\"pattern\":\"n.\",\"flags\":2\x7d,\"extra\":[\"a\\\"b\"]\x7d" := by
    simp only [bindings, toJson, Json.render, Json.tokens, BindingDecl.toJson,
      CandidateDecl.toJson, List.map_cons, List.map_nil]
    decide
  obtain ⟨read, htext, hkeys⟩ := hread _ hlayout
  rw [hrender] at htext
  have hname : decl.bindings["os_name"]? = some (.one (.pattern "n." 2)) := rfl
  refine ⟨read, htext, ?_, (hkeys "extra").1 "a\"b" rfl⟩
  rw [(hkeys "os_name").2, hname]
  intro s hs
  rw [hname] at hs
  cases hs

end EnvironmentDecl

end EnvMarkers
