import EnvMarkers.Environment.Declaration
import Mathlib.Data.List.Forall2
import Mathlib.Data.List.Permutation
import Mathlib.Data.Option.Basic

/-!
# How declared candidates are written

A candidate is written as a string, as an object with a pattern and perhaps flags, or as an object
with a version (`CandidateDecl.Writes`); what is declared for a name is written as one candidate or
as an array of candidates (`BindingDecl.Writes`).

The reader takes one more form of a candidate, an array with the members of a pattern in it
(`CandidateDecl.ofJson?_eq_some_iff`), and tries one candidate before it tries an array of them.
Where this form occurs, and nowhere else, a value is read as something that it does not write
(`BindingDecl.readsAsWritten_iff`).
-/

namespace EnvMarkers

/-! ### Lists of values -/

theorem mapM_eq_some_iff {α β : Type} {f : α → Option β} {xs : List α} {ys : List β} :
    xs.mapM f = some ys ↔ List.Forall₂ (fun x y => f x = some y) xs ys := by
  induction xs generalizing ys with
  | nil => simp [eq_comm]
  | cons x xs ih =>
    rw [List.mapM_cons, List.forall₂_cons_left_iff]
    constructor
    · intro h
      obtain ⟨y, hy, h⟩ := Option.bind_eq_some_iff.mp h
      obtain ⟨ys', hys, h⟩ := Option.bind_eq_some_iff.mp h
      exact ⟨y, ys', hy, ih.mp hys, (Option.some.inj h).symm⟩
    · rintro ⟨y, ys', hy, hys, rfl⟩
      rw [hy, ih.mpr hys]
      rfl

theorem exists_forall₂_iff {α β : Type} {R : α → β → Prop} {xs : List α} :
    (∃ ys, List.Forall₂ R xs ys) ↔ ∀ x ∈ xs, ∃ y, R x y := by
  induction xs with
  | nil => simp
  | cons x xs ih =>
    rw [List.forall_mem_cons, ← ih]
    constructor
    · rintro ⟨ys, hys⟩
      obtain ⟨y, ys', hy, hys, -⟩ := List.forall₂_cons_left_iff.mp hys
      exact ⟨⟨y, hy⟩, ys', hys⟩
    · rintro ⟨⟨y, hy⟩, ys, hys⟩
      exact ⟨y :: ys, .cons hy hys⟩

/-! ### Candidates -/

namespace CandidateDecl

/-- The text of a number has digits alone, and their value is `n`. -/
def WritesFlags (text : String) (n : UInt32) : Prop :=
  text.toList.all Char.isDigit = true ∧ Text.decimalValue text.toList = n.toNat

/-- A value writes a candidate. -/
inductive Writes : Json → CandidateDecl → Prop where
  /-- A string writes itself. -/
  | exact (text : String) : Writes (.string text) (.exact text)
  /-- An object with a pattern alone writes it without flags. -/
  | pattern (source : String) : Writes (.object [("pattern", .string source)]) (.pattern source 0)
  /-- An object with a pattern and flags writes both, in either order. -/
  | flags {members : List (String × Json)} {source text : String} {n : UInt32}
      (hmembers : members.Perm [("pattern", .string source), ("flags", .number text)])
      (hn : WritesFlags text n) : Writes (.object members) (.pattern source n)
  /-- An object with a version writes it. -/
  | version (text : String) : Writes (.object [("version", .string text)]) (.version text)

/-- An array has the members of a pattern in it, without their names. -/
inductive Positional : Json → CandidateDecl → Prop where
  /-- A pattern alone. -/
  | pattern (source : String) : Positional (.array [.string source]) (.pattern source 0)
  /-- A pattern, and its flags behind it. -/
  | flags (source : String) {text : String} {n : UInt32} (hn : WritesFlags text n) :
      Positional (.array [.string source, .number text]) (.pattern source n)

theorem Positional.not_writes {j : Json} {c c' : CandidateDecl} (h : Positional j c) :
    ¬ Writes j c' := by
  cases h <;> exact nofun

theorem flagsOfNumber?_eq_some_iff {text : String} {n : UInt32} :
    flagsOfNumber? text = some n ↔ WritesFlags text n := by
  unfold flagsOfNumber? WritesFlags
  constructor
  · intro h
    simp only at h
    split_ifs at h with hcond
    obtain ⟨hdigits, hvalue⟩ := (Bool.and_eq_true ..).mp hcond
    obtain rfl := Option.some.inj h
    exact ⟨hdigits, (UInt32.toNat_ofNat_of_lt' (of_decide_eq_true hvalue)).symm⟩
  · rintro ⟨hdigits, hvalue⟩
    have hlt : decide (n.toNat < UInt32.size) = true := decide_eq_true n.toNat_lt_size
    simp only [hdigits, hvalue, hlt, Bool.and_self, if_true, UInt32.ofNat_toNat]

@[simp] theorem flags?_eq_some_iff {j : Json} {n : UInt32} :
    flags? j = some n ↔ ∃ text, j = .number text ∧ WritesFlags text n := by
  cases j <;> simp [flags?, flagsOfNumber?_eq_some_iff]

@[simp] theorem string?_eq_some_iff {j : Json} {s : String} :
    string? j = some s ↔ j = .string s := by
  cases j <;> simp [string?]

theorem writes_or_positional_of_patternOfJson? {j : Json} {c : CandidateDecl}
    (h : patternOfJson? j = some c) : Writes j c ∨ Positional j c := by
  have hsource : ∀ {p : Json}, (do return pattern (← string? p) 0) = some c →
      ∃ source, p = .string source ∧ pattern source 0 = c := by
    simp [Option.bind_eq_some_iff]
  have hflags : ∀ {p f : Json}, (do return pattern (← string? p) (← flags? f)) = some c →
      ∃ source, p = .string source ∧
        ∃ text n, f = .number text ∧ WritesFlags text n ∧ pattern source n = c := by
    intro p f h
    obtain ⟨source, hp, h⟩ := Option.bind_eq_some_iff.mp h
    obtain ⟨n, hf, h⟩ := Option.bind_eq_some_iff.mp h
    obtain ⟨text, hf, hn⟩ := flags?_eq_some_iff.mp hf
    exact ⟨source, string?_eq_some_iff.mp hp, text, n, hf, hn, Option.some.inj h⟩
  unfold patternOfJson? at h
  split at h
  · obtain ⟨source, rfl, rfl⟩ := hsource h
    exact .inl (.pattern source)
  · obtain ⟨source, rfl, rfl⟩ := hsource h
    exact .inr (.pattern source)
  · obtain ⟨source, rfl, text, n, rfl, hn, rfl⟩ := hflags h
    exact .inl (.flags (.refl _) hn)
  · obtain ⟨source, rfl, text, n, rfl, hn, rfl⟩ := hflags h
    exact .inl (.flags (.swap ..) hn)
  · obtain ⟨source, rfl, text, n, rfl, hn, rfl⟩ := hflags h
    exact .inr (.flags source hn)
  · cases h

theorem writes_of_versionOfJson? {j : Json} {c : CandidateDecl} (hpattern : patternOfJson? j = none)
    (h : versionOfJson? j = some c) : Writes j c := by
  have htext : ∀ {v : Json}, (do return version (← string? v)) = some c →
      ∃ text, v = .string text ∧ version text = c := by
    simp [Option.bind_eq_some_iff]
  unfold versionOfJson? at h
  split at h
  · obtain ⟨text, rfl, rfl⟩ := htext h
    exact .version text
  · -- A version in an array is never found: what is in the array is a pattern already.
    obtain ⟨text, rfl, rfl⟩ := htext h
    cases hpattern
  · cases h

/-- A candidate is read where it is written, and from the members of a pattern without names. -/
theorem ofJson?_eq_some_iff {j : Json} {c : CandidateDecl} :
    ofJson? j = some c ↔ Writes j c ∨ Positional j c := by
  constructor
  · intro h
    unfold ofJson? at h
    rcases (Option.orElse_eq_some ..).mp h with h | ⟨-, h⟩
    · obtain ⟨text, htext, rfl⟩ := Option.map_eq_some_iff.mp h
      obtain rfl := string?_eq_some_iff.mp htext
      exact .inl (.exact text)
    · rcases (Option.orElse_eq_some ..).mp h with h | ⟨hpattern, h⟩
      · exact writes_or_positional_of_patternOfJson? h
      · exact .inl (writes_of_versionOfJson? hpattern h)
  · rintro (h | h)
    · cases h with
      | exact text => rfl
      | pattern source => rfl
      | version text => rfl
      | flags hmembers hn =>
        have hflags := flags?_eq_some_iff.mpr ⟨_, rfl, hn⟩
        rcases List.perm_pair.mp hmembers with rfl | rfl
        · simp [ofJson?, string?, patternOfJson?, hflags]
        · simp [ofJson?, string?, patternOfJson?, hflags]
    · cases h with
      | pattern source => rfl
      | flags source hn =>
        have hflags := flags?_eq_some_iff.mpr ⟨_, rfl, hn⟩
        simp [ofJson?, string?, patternOfJson?, hflags]

end CandidateDecl

/-! ### What is declared for a name -/

namespace BindingDecl

/-- A value writes one candidate, or an array of candidates in their order. -/
inductive Writes : Json → BindingDecl → Prop where
  /-- What writes a candidate writes it for a name. -/
  | one {j : Json} {c : CandidateDecl} (hc : CandidateDecl.Writes j c) : Writes j (.one c)
  /-- An array writes what its items write. -/
  | many {items : List Json} {cs : List CandidateDecl}
      (hcs : List.Forall₂ CandidateDecl.Writes items cs) : Writes (.array items) (.many cs)

/-- What is read of a value is what it writes. -/
def ReadsAsWritten (j : Json) : Prop :=
  ∀ b, ofJson? j = some b ↔ Writes j b

/-- A value is a pattern without the names of its members, or an array of candidates with such a
pattern among them. -/
def Misread (j : Json) : Prop :=
  (∃ c, CandidateDecl.Positional j c) ∨
    ∃ items, j = .array items ∧
      (∀ item ∈ items, ∃ c, CandidateDecl.Writes item c ∨ CandidateDecl.Positional item c) ∧
      ∃ item ∈ items, ∃ c, CandidateDecl.Positional item c

theorem ofJson?_of_candidate {j : Json} {c : CandidateDecl}
    (h : CandidateDecl.ofJson? j = some c) : ofJson? j = some (.one c) := by
  unfold ofJson?
  rw [h]
  rfl

theorem ofJson?_array_eq_some_iff {items : List Json}
    (hnone : CandidateDecl.ofJson? (.array items) = none) {b : BindingDecl} :
    ofJson? (.array items) = some b ↔
      ∃ cs, List.Forall₂ (fun item c => CandidateDecl.Writes item c ∨
        CandidateDecl.Positional item c) items cs ∧ .many cs = b := by
  have hread : ofJson? (.array items) = (items.mapM CandidateDecl.ofJson?).map .many := by
    unfold ofJson?
    rw [hnone]
    rfl
  simp only [hread, Option.map_eq_some_iff, mapM_eq_some_iff, CandidateDecl.ofJson?_eq_some_iff]

/-- What is read is one candidate, unless the value is an array that is no candidate. -/
theorem ofJson?_eq_some {j : Json} {b : BindingDecl} (h : ofJson? j = some b) :
    (∃ c, CandidateDecl.ofJson? j = some c ∧ b = .one c) ∨
      ∃ items, j = .array items ∧ CandidateDecl.ofJson? j = none := by
  cases hone : CandidateDecl.ofJson? j with
  | some c =>
    rw [ofJson?_of_candidate hone] at h
    exact .inl ⟨c, rfl, (Option.some.inj h).symm⟩
  | none =>
    unfold ofJson? at h
    rw [hone] at h
    cases j with
    | array items => exact .inr ⟨items, rfl, rfl⟩
    | _ => cases h

theorem ofJson?_eq_some_iff {j : Json} (h : ¬ Misread j) {b : BindingDecl} :
    ofJson? j = some b ↔ Writes j b := by
  have hwrites : ∀ {c}, CandidateDecl.ofJson? j = some c → CandidateDecl.Writes j c := by
    intro c hc
    rcases CandidateDecl.ofJson?_eq_some_iff.mp hc with hc | hc
    · exact hc
    · exact absurd (.inl ⟨c, hc⟩) h
  constructor
  · intro hread
    rcases ofJson?_eq_some hread with ⟨c, hc, rfl⟩ | ⟨items, rfl, hnone⟩
    · exact .one (hwrites hc)
    · obtain ⟨cs, hcs, rfl⟩ := (ofJson?_array_eq_some_iff hnone).mp hread
      have hall := exists_forall₂_iff.mp ⟨cs, hcs⟩
      have hitems : ∀ item ∈ items, ∀ c, ¬ CandidateDecl.Positional item c :=
        fun item hitem c hc => h (.inr ⟨items, rfl, hall, item, hitem, c, hc⟩)
      have hboth := (List.forall₂_and_left items cs).mpr ⟨hitems, hcs⟩
      exact .many (hboth.imp fun item c ⟨hitem, hc⟩ => hc.resolve_right (hitem c))
  · intro hb
    cases hb with
    | one hc => exact ofJson?_of_candidate (CandidateDecl.ofJson?_eq_some_iff.mpr (.inl hc))
    | @many items cs hcs =>
      -- No array is a candidate, so the items are looked at.
      have hnone : CandidateDecl.ofJson? (.array items) = none :=
        Option.eq_none_iff_forall_ne_some.mpr fun c hc => nomatch hwrites hc
      exact (ofJson?_array_eq_some_iff hnone).mpr ⟨cs, hcs.imp fun _ _ => .inl, rfl⟩

/-- A value is read as what it writes exactly if no pattern without names is taken for a candidate
in it. -/
theorem readsAsWritten_iff (j : Json) : ReadsAsWritten j ↔ ¬ Misread j := by
  refine ⟨?_, fun h b => ofJson?_eq_some_iff h⟩
  intro h hmisread
  have hone : ∀ c, ¬ CandidateDecl.Positional j c := by
    intro c hc
    have hread := ofJson?_of_candidate (CandidateDecl.ofJson?_eq_some_iff.mpr (.inr hc))
    cases (h _).mp hread with
    | one hwrites => exact hc.not_writes hwrites
  rcases hmisread with ⟨c, hc⟩ | ⟨items, rfl, hall, item, hitem, c, hc⟩
  · exact hone c hc
  · obtain ⟨cs, hcs⟩ := exists_forall₂_iff.mpr hall
    have hnone : CandidateDecl.ofJson? (.array items) = none := by
      refine Option.eq_none_iff_forall_ne_some.mpr fun c hc => ?_
      rcases CandidateDecl.ofJson?_eq_some_iff.mp hc with hc | hc
      · cases hc
      · exact hone c hc
    have hread := (ofJson?_array_eq_some_iff hnone).mpr ⟨cs, hcs, rfl⟩
    cases (h _).mp hread with
    | many hwrites =>
      obtain ⟨c', hc'⟩ := exists_forall₂_iff.mp ⟨cs, hwrites⟩ item hitem
      exact hc.not_writes hc'

end BindingDecl

end EnvMarkers
