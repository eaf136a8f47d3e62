import EnvMarkers.Json.Basic
import EnvMarkers.Proofs.JsonLayout

/-!
# Texts of JSON values

A value is written by its tokens (`Json.tokens`), and a text of it is any layout of these.  Every
value that does not nest too deeply is read from each of its texts (`Json.ofText?_of_layout`), and
has one without white space (`Json.layout_render`).

The reader of values keeps what is open on a stack.  Whatever is open, the tokens of a value take it
to the point where that value has been put in its place (`Json.Build.reads_of_writable`).
-/

namespace EnvMarkers.Json

/-! ### The tokens of a value -/

/-- Token sequences one after another with commas between them. -/
def commaSeparated : List (List JsonToken) → List JsonToken
  | [] => []
  | ts :: rest => ts ++ rest.flatMap (.comma :: ·)

/-- The tokens that write a value. -/
def tokens : Json → List JsonToken
  | null => [.null]
  | bool b => [.bool b]
  | number text => [.number text]
  | string s => [.string s]
  | array items => .openBracket :: (commaSeparated (items.map tokens) ++ [.closeBracket])
  | object members =>
    .openBrace :: (commaSeparated (members.map fun m => .string m.1 :: .colon :: m.2.tokens) ++
      [.closeBrace])
decreasing_by
  · have := List.sizeOf_lt_of_mem ‹_ ∈ items›
    simp
    omega
  · have := List.sizeOf_lt_of_mem ‹_ ∈ members›
    obtain ⟨key, v⟩ := m
    simp at this ⊢
    omega

/-- A value can be written if its numbers are numbers, and read again if at most `n` arrays and
objects are open in it at once. -/
inductive Writable : Nat → Json → Prop
  /-- The missing value can be written. -/
  | null {n : Nat} : Writable n .null
  /-- Truth values can be written. -/
  | bool {n : Nat} (b : Bool) : Writable n (.bool b)
  /-- A number can be written if its text is that of a number. -/
  | number {n : Nat} {text : String} (htext : JsonToken.isNumber text.toList = true) :
    Writable n (.number text)
  /-- Strings can be written. -/
  | string {n : Nat} (s : String) : Writable n (.string s)
  /-- An array can be written if its items can, and is open around them. -/
  | array {n : Nat} {items : List Json} (hitems : ∀ v ∈ items, Writable n v) :
    Writable (n + 1) (.array items)
  /-- An object can be written if the values of its members can, and is open around them. -/
  | object {n : Nat} {members : List (String × Json)} (hmembers : ∀ m ∈ members, Writable n m.2) :
    Writable (n + 1) (.object members)

/-- What the tokens of a value begin with does not end an array. -/
theorem exists_cons_tokens (v : Json) : ∃ t ts, v.tokens = t :: ts ∧ t ≠ .closeBracket := by
  cases v <;> rw [tokens] <;> exact ⟨_, _, rfl, nofun⟩

/-! ### Reading the tokens of a value -/

namespace Build

/-- The value that is read by a reader that goes on from a state. -/
def run (b : Build) (ts : List JsonToken) : Option Json :=
  ts.foldlM step? b >>= finish?

theorem run_cons_of_step? {b b' : Build} {t : JsonToken} (h : b.step? t = some b')
    (ts : List JsonToken) : b.run (t :: ts) = b'.run ts := by
  rw [run, List.foldlM_cons, h]
  rfl

theorem run_colon (opened : List Open) (ts : List JsonToken) :
    run ⟨opened, .colon⟩ (.colon :: ts) = run ⟨opened, .value⟩ ts :=
  run_cons_of_step? rfl ts

/-- Where an array may end, it goes on with the tokens of a value as everywhere else. -/
theorem run_firstItem (opened : List Open) (v : Json) (rest : List JsonToken) :
    run ⟨opened, .firstItem⟩ (v.tokens ++ rest) = run ⟨opened, .value⟩ (v.tokens ++ rest) := by
  obtain ⟨t, ts, hts, hne⟩ := v.exists_cons_tokens
  have hstep : step? ⟨opened, .firstItem⟩ t = step? ⟨opened, .value⟩ t := if_neg hne
  rw [hts, List.cons_append, run, run, List.foldlM_cons, List.foldlM_cons, hstep]

/-- Whether the tokens of a value are read as that value, if `n` more arrays and objects may be
opened. -/
def Reads (n : Nat) (v : Json) : Prop :=
  ∀ opened : List Open, opened.length + n ≤ maxDepth → ∀ rest,
    run ⟨opened, .value⟩ (v.tokens ++ rest) = run (complete opened v) rest

theorem reads_of_tokens_eq {n : Nat} {v : Json} {t : JsonToken} (htokens : v.tokens = [t])
    (hread : ∀ opened, value? opened t = some (complete opened v)) : Reads n v := by
  intro opened _ rest
  have hstep : step? ⟨opened, .value⟩ t = some (complete opened v) := hread opened
  rw [htokens]
  exact run_cons_of_step? hstep rest

theorem Reads.inside {n : Nat} {v : Json} (h : Reads n v) {opened : List Open}
    (hroom : opened.length + (n + 1) ≤ maxDepth) (inner : Open) (rest : List JsonToken) :
    run ⟨inner :: opened, .value⟩ (v.tokens ++ rest) = run (complete (inner :: opened) v) rest := by
  have hinner : (inner :: opened).length + n ≤ maxDepth := by
    rw [List.length_cons]
    omega
  exact h _ hinner rest

/-- The items of an array behind those that have been read. -/
theorem run_items {n : Nat} {opened : List Open} (hroom : opened.length + (n + 1) ≤ maxDepth)
    {items : List Json} (hitems : ∀ v ∈ items, Reads n v) (before : List Json)
    (rest : List JsonToken) :
    run ⟨.array before :: opened, .more⟩
        ((items.map tokens).flatMap (.comma :: ·) ++ .closeBracket :: rest) =
      run (complete opened (.array (before.reverse ++ items))) rest := by
  induction items generalizing before with
  | nil =>
    rw [List.append_nil]
    exact run_cons_of_step? rfl rest
  | cons v items ih =>
    rw [List.forall_mem_cons] at hitems
    have hcomma : step? ⟨.array before :: opened, .more⟩ .comma =
      some ⟨.array before :: opened, .value⟩ := rfl
    simp only [List.map_cons, List.flatMap_cons, List.cons_append, List.append_assoc]
    rw [run_cons_of_step? hcomma, hitems.1.inside hroom]
    -- What has been read lies on the stack the latest first, and `v` is now on top of it.
    refine (ih hitems.2 (v :: before)).trans ?_
    rw [List.reverse_cons, List.append_assoc, List.singleton_append]

/-- The members of an object behind those that have been read. -/
theorem run_members {n : Nat} {opened : List Open} (hroom : opened.length + (n + 1) ≤ maxDepth)
    {members : List (String × Json)} (hmembers : ∀ m ∈ members, Reads n m.2)
    (before : List (String × Json)) (key : String) (rest : List JsonToken) :
    run ⟨.object before key :: opened, .more⟩
        ((members.map fun m => .string m.1 :: .colon :: m.2.tokens).flatMap (.comma :: ·) ++
          .closeBrace :: rest) =
      run (complete opened (.object (before.reverse ++ members))) rest := by
  induction members generalizing before key with
  | nil =>
    rw [List.append_nil]
    exact run_cons_of_step? rfl rest
  | cons m members ih =>
    rw [List.forall_mem_cons] at hmembers
    have hcomma : step? ⟨.object before key :: opened, .more⟩ .comma =
      some ⟨.object before key :: opened, .key⟩ := rfl
    have hkey : step? ⟨.object before key :: opened, .key⟩ (.string m.1) =
      some ⟨.object before m.1 :: opened, .colon⟩ := rfl
    simp only [List.map_cons, List.flatMap_cons, List.cons_append, List.append_assoc]
    rw [run_cons_of_step? hcomma, run_cons_of_step? hkey, run_colon, hmembers.1.inside hroom]
    refine (ih hmembers.2 (m :: before) m.1).trans ?_
    rw [List.reverse_cons, List.append_assoc, List.singleton_append]

theorem reads_array {n : Nat} {items : List Json} (hitems : ∀ v ∈ items, Reads n v) :
    Reads (n + 1) (.array items) := by
  intro opened hroom rest
  have hlt : opened.length < maxDepth := by omega
  have hopen : step? ⟨opened, .value⟩ .openBracket = some ⟨.array [] :: opened, .firstItem⟩ :=
    if_pos hlt
  rw [tokens, List.cons_append, run_cons_of_step? hopen, List.append_assoc, List.singleton_append]
  cases items with
  | nil => exact run_cons_of_step? rfl rest
  | cons v items =>
    rw [List.forall_mem_cons] at hitems
    rw [List.map_cons, commaSeparated, List.append_assoc, run_firstItem, hitems.1.inside hroom]
    exact run_items hroom hitems.2 [v] rest

theorem reads_object {n : Nat} {members : List (String × Json)}
    (hmembers : ∀ m ∈ members, Reads n m.2) : Reads (n + 1) (.object members) := by
  intro opened hroom rest
  have hlt : opened.length < maxDepth := by omega
  have hopen : step? ⟨opened, .value⟩ .openBrace = some ⟨.object [] "" :: opened, .firstKey⟩ :=
    if_pos hlt
  rw [tokens, List.cons_append, run_cons_of_step? hopen, List.append_assoc, List.singleton_append]
  cases members with
  | nil => exact run_cons_of_step? rfl rest
  | cons m members =>
    rw [List.forall_mem_cons] at hmembers
    have hkey : step? ⟨.object [] "" :: opened, .firstKey⟩ (.string m.1) =
      some ⟨.object [] m.1 :: opened, .colon⟩ := rfl
    simp only [List.map_cons, commaSeparated, List.cons_append, List.append_assoc]
    rw [run_cons_of_step? hkey, run_colon, hmembers.1.inside hroom]
    exact run_members hroom hmembers.2 [m] m.1 rest

/-- The tokens of a value are read as that value, whatever is open. -/
theorem reads_of_writable {n : Nat} {v : Json} (h : Writable n v) : Reads n v := by
  induction h with
  | null => exact reads_of_tokens_eq (by rw [tokens]) fun _ => rfl
  | bool b => exact reads_of_tokens_eq (by rw [tokens]) fun _ => rfl
  | number htext => exact reads_of_tokens_eq (by rw [tokens]) fun _ => rfl
  | string s => exact reads_of_tokens_eq (by rw [tokens]) fun _ => rfl
  | array _ ih => exact reads_array ih
  | object _ ih => exact reads_object ih

end Build

theorem ofTokens?_tokens {v : Json} (h : Writable maxDepth v) : ofTokens? v.tokens = some v := by
  have hrun := Build.reads_of_writable h [] (Nat.zero_add _).le []
  rw [List.append_nil] at hrun
  exact hrun

/-- A value that does not nest too deeply is read from each of its texts. -/
theorem ofText?_of_layout {v : Json} (h : Writable maxDepth v) {text : String}
    (htext : JsonToken.Layout v.tokens text.toList) : ofText? text = some v := by
  rw [ofText?, JsonToken.scan?_of_layout htext]
  exact ofTokens?_tokens h

/-! ### Writing values -/

/-- The text of a value without white space. -/
def render (v : Json) : String :=
  String.ofList (v.tokens.flatMap JsonToken.write)

/-- Whether a text is empty or begins with a character that ends any token before it. -/
def Ends (cs : List Char) : Prop :=
  ∀ c ∈ cs.head?, ∀ t : JsonToken, t.extendedBy c = false

theorem ends_cons {c : Char} (hc : c ∈ [',', ']', '}']) (cs : List Char) : Ends (c :: cs) := by
  intro d hd t
  obtain rfl := Option.some.inj hd
  have hall : [',', ']', '}'].all (fun c => !JsonToken.isNumberChar c && !c.isAlpha) =
      true := by decide
  have hends := List.all_eq_true.mp hall _ hc
  rw [Bool.and_eq_true, Bool.not_eq_true', Bool.not_eq_true'] at hends
  obtain ⟨hnumber, halpha⟩ := hends
  cases t with
  | number text => exact hnumber
  | null => exact halpha
  | bool b => exact halpha
  | _ => rfl

/-- Whether tokens may be written without white space in front of any text that ends them. -/
def Renders (us : List JsonToken) : Prop :=
  ∀ (ts : List JsonToken) (cs : List Char), JsonToken.Layout ts cs → Ends cs →
    JsonToken.Layout (us ++ ts) (us.flatMap JsonToken.write ++ cs)

theorem renders_singleton {t : JsonToken}
    (ht : ∀ text, t = .number text → JsonToken.isNumber text.toList = true) : Renders [t] := by
  intro ts cs hts hends
  rw [List.flatMap_singleton]
  exact .write_append ht hts fun c hc => hends c hc t

theorem Renders.cons {t : JsonToken} {us : List JsonToken} (ht : ∀ text, t ≠ .number text)
    (hextended : ∀ c, t.extendedBy c = false) (hus : Renders us) : Renders (t :: us) := by
  intro ts cs hts hends
  rw [List.flatMap_cons, List.append_assoc]
  exact .write_append (fun text htext => absurd htext (ht text)) (hus ts cs hts hends) fun c _ =>
    hextended c

/-- Tokens in front of others that begin with what ends them. -/
theorem Renders.append {us vs : List JsonToken} (hus : Renders us) (hvs : Renders vs)
    (hends : ∀ cs, Ends cs → Ends (vs.flatMap JsonToken.write ++ cs)) : Renders (us ++ vs) := by
  intro ts cs hts hcs
  rw [List.flatMap_append, List.append_assoc, List.append_assoc]
  exact hus _ _ (hvs ts cs hts hcs) (hends cs hcs)

theorem renders_flatMap_comma {tss : List (List JsonToken)} (h : ∀ us ∈ tss, Renders us) :
    Renders (tss.flatMap (.comma :: ·)) ∧
      ∀ cs, Ends cs → Ends ((tss.flatMap (.comma :: ·)).flatMap JsonToken.write ++ cs) := by
  induction tss with
  | nil => exact ⟨fun _ _ hts _ => hts, fun _ hcs => hcs⟩
  | cons us tss ih =>
    rw [List.forall_mem_cons] at h
    obtain ⟨hrest, hends⟩ := ih h.2
    refine ⟨?_, fun cs _ => ends_cons (by decide) _⟩
    rw [List.flatMap_cons]
    exact (h.1.append hrest hends).cons nofun fun _ => rfl

theorem renders_commaSeparated {tss : List (List JsonToken)} (h : ∀ us ∈ tss, Renders us) :
    Renders (commaSeparated tss) := by
  cases tss with
  | nil => exact fun _ _ hts _ => hts
  | cons us tss =>
    rw [List.forall_mem_cons] at h
    obtain ⟨hrest, hends⟩ := renders_flatMap_comma h.2
    exact h.1.append hrest hends

theorem renders_tokens {n : Nat} {v : Json} (h : Writable n v) : Renders v.tokens := by
  induction h with
  | null =>
    rw [tokens]
    exact renders_singleton nofun
  | bool b =>
    rw [tokens]
    exact renders_singleton nofun
  | number htext =>
    rw [tokens]
    refine renders_singleton fun text ht => ?_
    obtain rfl := JsonToken.number.inj ht
    exact htext
  | string s =>
    rw [tokens]
    exact renders_singleton nofun
  | @array n items _ ih =>
    have hitems : ∀ us ∈ items.map tokens, Renders us := by
      intro us hus
      obtain ⟨v, hv, rfl⟩ := List.mem_map.mp hus
      exact ih v hv
    have hclose : Renders [.closeBracket] := renders_singleton nofun
    have hinside := (renders_commaSeparated hitems).append hclose fun cs _ =>
      ends_cons (by decide) cs
    rw [tokens]
    exact hinside.cons nofun fun _ => rfl
  | @object n members _ ih =>
    have hmembers : ∀ us ∈ members.map fun m => .string m.1 :: .colon :: m.2.tokens,
        Renders us := by
      intro us hus
      obtain ⟨m, hm, rfl⟩ := List.mem_map.mp hus
      have hvalue : Renders (.colon :: m.2.tokens) := (ih m hm).cons nofun fun _ => rfl
      exact hvalue.cons nofun fun _ => rfl
    have hclose : Renders [.closeBrace] := renders_singleton nofun
    have hinside := (renders_commaSeparated hmembers).append hclose fun cs _ =>
      ends_cons (by decide) cs
    rw [tokens]
    exact hinside.cons nofun fun _ => rfl

/-- A value that can be written is written by its text without white space. -/
theorem layout_render {n : Nat} {v : Json} (h : Writable n v) :
    JsonToken.Layout v.tokens v.render.toList := by
  have hnil : JsonToken.Layout [] [] := .nil (List.forall_mem_nil _)
  have hlayout := renders_tokens h [] [] hnil fun c hc => nomatch hc
  rw [List.append_nil, List.append_nil] at hlayout
  rw [render, String.toList_ofList]
  exact hlayout

end EnvMarkers.Json
