import EnvMarkers.Environment.Builtin
import Mathlib.Data.Nat.Bitwise
import Mathlib.Logic.Function.Iterate

/-!
# What patterns match

An expression matches a text from one position to another (`Expr.Matches`).  The matcher says
whether there are two such positions (`Expr.matchesIn_iff`), and so a pattern matches exactly the
texts in which its expression matches something (`Pattern.isMatch_iff`).

The matcher works on sets of positions: what an expression does to a set is what it does to each
position in it (`Expr.acts_run`).  It takes no repetition round more often than there are positions,
since among as many rounds one does not get on, and may be left out or taken once more
(`rounds_succ_iff`).
-/

namespace EnvMarkers

/-! ### Rounds -/

section Rounds

variable {R S : Nat → Nat → Prop} {n i j k m : Nat}

/-- Where a relation leads from a position in a number of rounds. -/
def Rounds (R : Nat → Nat → Prop) : Nat → Nat → Nat → Prop
  | 0, i, j => i = j
  | k + 1, i, j => ∃ p, R i p ∧ Rounds R k p j

theorem rounds_one : Rounds R 1 i j ↔ R i j := by
  constructor
  · rintro ⟨p, hp, rfl⟩
    exact hp
  · exact fun h => ⟨j, h, rfl⟩

theorem rounds_add : Rounds R (k + m) i j ↔ ∃ p, Rounds R k i p ∧ Rounds R m p j := by
  induction k generalizing i with
  | zero =>
    rw [Nat.zero_add]
    constructor
    · exact fun h => ⟨i, rfl, h⟩
    · rintro ⟨p, rfl, h⟩
      exact h
  | succ k ih =>
    rw [Nat.add_right_comm]
    constructor
    · rintro ⟨q, hq, h⟩
      obtain ⟨p, hp, h⟩ := ih.mp h
      exact ⟨p, ⟨q, hq, hp⟩, h⟩
    · rintro ⟨p, ⟨q, hq, hp⟩, h⟩
      exact ⟨q, hq, ih.mpr ⟨p, hp, h⟩⟩

/-- If each round may be left out, what is left are fewer rounds. -/
theorem rounds_eq_or_iff :
    Rounds (fun i j => i = j ∨ R i j) k i j ↔ ∃ m ≤ k, Rounds R m i j := by
  induction k generalizing i with
  | zero =>
    constructor
    · exact fun h => ⟨0, Nat.le_refl 0, h⟩
    · rintro ⟨m, hm, h⟩
      obtain rfl := Nat.le_zero.mp hm
      exact h
  | succ k ih =>
    constructor
    · rintro ⟨p, rfl | hp, h⟩
      · obtain ⟨m, hm, h⟩ := ih.mp h
        exact ⟨m, Nat.le_succ_of_le hm, h⟩
      · obtain ⟨m, hm, h⟩ := ih.mp h
        exact ⟨m + 1, Nat.succ_le_succ hm, p, hp, h⟩
    · rintro ⟨m, hm, h⟩
      cases m with
      | zero => exact ⟨i, .inl rfl, ih.mpr ⟨0, Nat.zero_le k, h⟩⟩
      | succ m =>
        obtain ⟨p, hp, h⟩ := h
        exact ⟨p, .inr hp, ih.mpr ⟨m, Nat.le_of_succ_le_succ hm, h⟩⟩

/-- A relation never leads back, nor past the last position `n`. -/
structure Forward (n : Nat) (R : Nat → Nat → Prop) : Prop where
  /-- It does not lead back. -/
  le : ∀ {i j}, R i j → i ≤ j
  /-- It does not lead past the end. -/
  le_end : ∀ {i j}, R i j → i ≤ n → j ≤ n

theorem forward_eq : Forward n fun i j => i = j :=
  ⟨Nat.le_of_eq, fun heq hi => heq ▸ hi⟩

theorem Forward.comp (hR : Forward n R) (hS : Forward n S) :
    Forward n fun i j => ∃ p, R i p ∧ S p j := by
  constructor
  · rintro i j ⟨p, hp, hrest⟩
    exact Nat.le_trans (hR.le hp) (hS.le hrest)
  · rintro i j ⟨p, hp, hrest⟩ hi
    exact hS.le_end hrest (hR.le_end hp hi)

theorem Forward.union (hR : Forward n R) (hS : Forward n S) :
    Forward n fun i j => R i j ∨ S i j := by
  constructor
  · rintro i j (h | h)
    · exact hR.le h
    · exact hS.le h
  · rintro i j (h | h) hi
    · exact hR.le_end h hi
    · exact hS.le_end h hi

theorem Forward.rounds (h : Forward n R) (k : Nat) : Forward n (Rounds R k) := by
  induction k with
  | zero => exact forward_eq
  | succ k ih => exact h.comp ih

/-- Of more rounds than there are positions to get on to, one does not get on. -/
theorem Forward.exists_idle (h : Forward n R) (hrounds : Rounds R k i j) (hlt : j < i + k) :
    ∃ a b p, a + 1 + b = k ∧ Rounds R a i p ∧ R p p ∧ Rounds R b p j := by
  induction k generalizing i with
  | zero =>
    obtain rfl : i = j := hrounds
    exact absurd hlt (Nat.lt_irrefl i)
  | succ k ih =>
    obtain ⟨p, hp, hrest⟩ := hrounds
    rcases Nat.eq_or_lt_of_le (h.le hp) with rfl | hget
    · exact ⟨0, k, i, by omega, rfl, hp, hrest⟩
    · obtain ⟨a, b, q, hk, ha, hq, hb⟩ := ih hrest (by omega)
      exact ⟨a + 1, b, q, by omega, ⟨p, hp, ha⟩, hq, hb⟩

/-- Beyond the last position, one round more or less makes no difference. -/
theorem rounds_succ_iff (h : Forward n R) (hi : i ≤ n) (hk : n < k) :
    Rounds R (k + 1) i j ↔ Rounds R k i j := by
  constructor
  · intro hrounds
    have hj := (h.rounds (k + 1)).le_end hrounds hi
    obtain ⟨a, b, p, hab, ha, -, hb⟩ := h.exists_idle hrounds (by omega)
    obtain rfl : a + b = k := by omega
    exact rounds_add.mpr ⟨p, ha, hb⟩
  · intro hrounds
    have hj := (h.rounds k).le_end hrounds hi
    obtain ⟨a, b, p, rfl, ha, hp, hb⟩ := h.exists_idle hrounds (by omega)
    have hfront : Rounds R (a + 1) i p := rounds_add.mpr ⟨p, ha, rounds_one.mpr hp⟩
    have hback : Rounds R (1 + b) p j := rounds_add.mpr ⟨p, rounds_one.mpr hp, hb⟩
    have hall := rounds_add.mpr ⟨p, hfront, hback⟩
    rwa [← Nat.add_assoc, Nat.add_right_comm] at hall

/-- No more rounds are needed than there are positions. -/
theorem rounds_min_iff (h : Forward n R) (hi : i ≤ n) :
    Rounds R (min k (n + 1)) i j ↔ Rounds R k i j := by
  rcases Nat.le_total k (n + 1) with hk | hk
  · rw [Nat.min_eq_left hk]
  · rw [Nat.min_eq_right hk]
    induction k, hk using Nat.le_induction with
    | base => exact Iff.rfl
    | succ k hk ih => exact ih.trans (rounds_succ_iff h hi hk).symm

/-- As many rounds as have to be, and then up to `further` more, are all rounds that may be, if more
than `further` are not allowed or not needed. -/
theorem rounds_least_most_iff (h : Forward n R) (hi : i ≤ n) {least further : Nat}
    {most : Option Nat} (hallowed : ∀ m ≤ further, ∀ bound ∈ most, least + m ≤ max least bound)
    (hneeded : ∀ m, (∀ bound ∈ most, least + m ≤ max least bound) → min m (n + 1) ≤ further) :
    (∃ p, Rounds R (min least (n + 1)) i p ∧ ∃ m ≤ further, Rounds R m p j) ↔
      ∃ k, least ≤ k ∧ (∀ bound ∈ most, k ≤ max least bound) ∧ Rounds R k i j := by
  constructor
  · rintro ⟨p, hp, m, hm, hj⟩
    have hfirst := (rounds_min_iff h hi).mp hp
    exact ⟨least + m, Nat.le_add_right least m, hallowed m hm, rounds_add.mpr ⟨p, hfirst, hj⟩⟩
  · rintro ⟨k, hleast, hmost, hrounds⟩
    obtain ⟨m, rfl⟩ := Nat.exists_eq_add_of_le hleast
    obtain ⟨p, hp, hj⟩ := rounds_add.mp hrounds
    have hpn := (h.rounds least).le_end hp hi
    exact ⟨p, (rounds_min_iff h hi).mpr hp, min m (n + 1), hneeded m hmost,
      (rounds_min_iff h hpn).mpr hj⟩

end Rounds

/-! ### Matches -/

namespace Expr

/-- The character before a position of a text. -/
def charBefore (text : List Char) : Nat → Option Char
  | 0 => none
  | i + 1 => text[i]?

/-- An expression matches a text from one position to another. -/
def Matches (text : List Char) : Expr → Nat → Nat → Prop
  | empty, i, j => i = j
  | one c, i, j => text[i]?.any c.contains = true ∧ i + 1 = j
  | assertion a, i, j => a.holds (charBefore text i) text[i]? = true ∧ i = j
  | sequence a b, i, j => ∃ p, a.Matches text i p ∧ b.Matches text p j
  | choice a b, i, j => a.Matches text i j ∨ b.Matches text i j
  | repeated a least most, i, j =>
    ∃ k, least ≤ k ∧ (∀ bound ∈ most, k ≤ max least bound) ∧ Rounds (a.Matches text) k i j

theorem forward_matches (text : List Char) (e : Expr) : Forward text.length (e.Matches text) := by
  induction e with
  | empty => exact forward_eq
  | one c =>
    constructor
    · rintro i j ⟨-, rfl⟩
      exact Nat.le_succ i
    · rintro i j ⟨htest, rfl⟩ -
      obtain ⟨x, hx, -⟩ := (Option.any_eq_true ..).mp htest
      exact (List.getElem?_eq_some_iff.mp hx).1
  | assertion a =>
    constructor
    · rintro i j ⟨-, rfl⟩
      exact Nat.le_refl i
    · rintro i j ⟨-, rfl⟩ hi
      exact hi
  | sequence a b iha ihb => exact iha.comp ihb
  | choice a b iha ihb => exact iha.union ihb
  | repeated a least most ih =>
    constructor
    · rintro i j ⟨k, -, -, h⟩
      exact (ih.rounds k).le h
    · rintro i j ⟨k, -, -, h⟩ hi
      exact (ih.rounds k).le_end h hi

end Expr

/-! ### Sets of positions -/

section Acts

variable {n : Nat} {f g : Positions → Positions} {R S : Nat → Nat → Prop}

/-- All positions of a set are in the text, of which `n` is the last position. -/
def Within (n : Nat) (s : Positions) : Prop :=
  ∀ i, s.testBit i = true → i ≤ n

/-- A function takes a set of positions to where a relation leads from the positions in it. -/
def Acts (n : Nat) (f : Positions → Positions) (R : Nat → Nat → Prop) : Prop :=
  ∀ s, Within n s → ∀ j, (f s).testBit j = true ↔ ∃ i, s.testBit i = true ∧ R i j

theorem Acts.within (h : Acts n f R) (hR : Forward n R) {s : Positions} (hs : Within n s) :
    Within n (f s) := by
  intro j hj
  obtain ⟨i, hi, hij⟩ := (h s hs j).mp hj
  exact hR.le_end hij (hs i hi)

theorem Acts.congr (h : Acts n f R) (hRS : ∀ i ≤ n, ∀ j, R i j ↔ S i j) : Acts n f S := by
  intro s hs j
  rw [h s hs j]
  exact exists_congr fun i => and_congr_right fun hi => hRS i (hs i hi) j

theorem acts_id : Acts n id fun i j => i = j := by
  intro s _ j
  constructor
  · exact fun hj => ⟨j, hj, rfl⟩
  · rintro ⟨i, hi, rfl⟩
    exact hi

theorem Acts.comp (hf : Acts n f R) (hR : Forward n R) (hg : Acts n g S) :
    Acts n (fun s => g (f s)) fun i j => ∃ p, R i p ∧ S p j := by
  intro s hs j
  rw [hg (f s) (hf.within hR hs) j]
  constructor
  · rintro ⟨p, hp, hpj⟩
    obtain ⟨i, hi, hip⟩ := (hf s hs p).mp hp
    exact ⟨i, hi, p, hip, hpj⟩
  · rintro ⟨i, hi, p, hip, hpj⟩
    exact ⟨p, (hf s hs p).mpr ⟨i, hi, hip⟩, hpj⟩

theorem Acts.union (hf : Acts n f R) (hg : Acts n g S) :
    Acts n (fun s => f s ||| g s) fun i j => R i j ∨ S i j := by
  intro s hs j
  rw [Nat.testBit_or, Bool.or_eq_true, hf s hs j, hg s hs j]
  constructor
  · rintro (⟨i, hi, hij⟩ | ⟨i, hi, hij⟩)
    · exact ⟨i, hi, .inl hij⟩
    · exact ⟨i, hi, .inr hij⟩
  · rintro ⟨i, hi, hij | hij⟩
    · exact .inl ⟨i, hi, hij⟩
    · exact .inr ⟨i, hi, hij⟩

namespace Moves

/-- Stopping early makes no difference: what changes nothing will not change anything later. -/
theorem iterate_eq (f : Positions → Positions) (k : Nat) (s : Positions) :
    iterate f k s = f^[k] s := by
  induction k generalizing s with
  | zero => rfl
  | succ k ih =>
    rw [iterate]
    by_cases h : f s = s
    · rw [if_pos h, Function.iterate_fixed h]
    · rw [if_neg h, ih, Function.iterate_succ_apply]

theorem acts_iterate (hf : Acts n f R) (hR : Forward n R) (k : Nat) :
    Acts n (iterate f k) (Rounds R k) := by
  have hfold : ∀ k, Acts n f^[k] (Rounds R k) := by
    intro k
    induction k with
    | zero => exact acts_id
    | succ k ih => exact hf.comp hR ih
  intro s hs
  rw [iterate_eq]
  exact hfold k s hs

theorem acts_spread (hf : Acts n f R) (hR : Forward n R) (k : Nat) :
    Acts n (spread f k) fun i j => ∃ m ≤ k, Rounds R m i j := by
  have hstay : Forward n fun i j => i = j ∨ R i j := forward_eq.union hR
  exact (acts_iterate (acts_id.union hf) hstay k).congr fun i _ j => rounds_eq_or_iff

end Moves

end Acts

/-! ### Tests at positions -/

theorem length_places (before : Option Char) (text : List Char) :
    (places before text).length = text.length + 1 := by
  induction text generalizing before with
  | nil => rfl
  | cons c cs ih => rw [places, List.length_cons, ih, List.length_cons]

theorem getElem?_places (before : Option Char) {text : List Char} {i : Nat}
    (hi : i ≤ text.length) :
    (places before text)[i]? = some (if i = 0 then before else text[i - 1]?, text[i]?) := by
  induction text generalizing before i with
  | nil =>
    obtain rfl := Nat.le_zero.mp hi
    rfl
  | cons c cs ih =>
    cases i with
    | zero => rfl
    | succ i =>
      rw [places, List.getElem?_cons_succ, ih (some c) (Nat.le_of_succ_le_succ hi)]
      cases i <;> rfl

theorem testBit_positionsWhere (test : Option Char → Option Char → Bool)
    (ps : List (Option Char × Option Char)) (i : Nat) :
    (positionsWhere test ps).testBit i = true ↔ ∃ p, ps[i]? = some p ∧ test p.1 p.2 = true := by
  induction ps generalizing i with
  | nil => simp [positionsWhere]
  | cons p ps ih =>
    have hbit : positionsWhere test (p :: ps) =
        Nat.bit (test p.1 p.2) (positionsWhere test ps) := by
      rw [Nat.bit_val]
      cases h : test p.1 p.2 <;> simp [positionsWhere, h]
    rw [hbit]
    cases i with
    | zero => simp
    | succ i => rw [Nat.testBit_bit_succ, ih, List.getElem?_cons_succ]

/-- A test succeeds at the positions where it does so between the characters around them. -/
theorem testBit_positionsWhere_places (test : Option Char → Option Char → Bool) {text : List Char}
    {i : Nat} (hi : i ≤ text.length) :
    (positionsWhere test (places none text)).testBit i = true ↔
      test (Expr.charBefore text i) text[i]? = true := by
  have hplace : (places none text)[i]? = some (Expr.charBefore text i, text[i]?) := by
    rw [getElem?_places none hi]
    cases i <;> rfl
  rw [testBit_positionsWhere, hplace]
  constructor
  · rintro ⟨p, hp, htest⟩
    obtain rfl := Option.some.inj hp
    exact htest
  · exact fun h => ⟨_, rfl, h⟩

/-! ### The matcher -/

namespace Expr

theorem acts_stayAt (text : List Char) (test : Option Char → Option Char → Bool) :
    Acts text.length (fun s => s &&& positionsWhere test (places none text))
      fun i j => test (charBefore text i) text[i]? = true ∧ i = j := by
  intro s hs j
  rw [Nat.testBit_and, Bool.and_eq_true]
  constructor
  · rintro ⟨hj, htest⟩
    exact ⟨j, hj, (testBit_positionsWhere_places test (hs j hj)).mp htest, rfl⟩
  · rintro ⟨i, hi, htest, rfl⟩
    exact ⟨hi, (testBit_positionsWhere_places test (hs i hi)).mpr htest⟩

theorem acts_step (text : List Char) (test : Option Char → Option Char → Bool) :
    Acts text.length (fun s => (s &&& positionsWhere test (places none text)) <<< 1)
      fun i j => test (charBefore text i) text[i]? = true ∧ i + 1 = j := by
  intro s hs j
  rw [Nat.testBit_shiftLeft, Bool.and_eq_true, decide_eq_true_eq, Nat.testBit_and,
    Bool.and_eq_true]
  constructor
  · rintro ⟨hj, hset, htest⟩
    exact ⟨j - 1, hset, (testBit_positionsWhere_places test (hs _ hset)).mp htest,
      Nat.sub_add_cancel hj⟩
  · rintro ⟨i, hi, htest, rfl⟩
    exact ⟨Nat.le_add_left 1 i, hi, (testBit_positionsWhere_places test (hs i hi)).mpr htest⟩

/-- What an expression does to a set of positions is to match on from each of them. -/
theorem acts_run (text : List Char) (e : Expr) :
    Acts text.length ((e.resolve (places none text)).run (text.length + 1)) (e.Matches text) := by
  induction e with
  | empty => exact acts_id
  | one c => exact acts_step text fun _ after => after.any c.contains
  | assertion a => exact acts_stayAt text a.holds
  | sequence a b iha ihb => exact iha.comp (forward_matches text a) ihb
  | choice a b iha ihb => exact iha.union ihb
  | repeated a least most ih =>
    have hR := forward_matches text a
    have hfirst := Moves.acts_iterate ih hR (min least (text.length + 1))
    have hlater := fun further => hfirst.comp (hR.rounds _) (Moves.acts_spread ih hR further)
    cases most with
    | none =>
      refine (hlater (text.length + 1)).congr fun i hi j => rounds_least_most_iff hR hi ?_ ?_
      · exact fun _ _ _ => nofun
      · exact fun m _ => Nat.min_le_right m _
    | some most =>
      refine (hlater (min (most - least) (text.length + 1))).congr fun i hi j =>
        rounds_least_most_iff hR hi ?_ ?_
      · intro m hm bound hbound
        obtain rfl := Option.some.inj hbound
        omega
      · intro m hm
        have hbound := hm most rfl
        omega

/-- The matcher says whether an expression matches some part of a text. -/
theorem matchesIn_iff (e : Expr) (text : List Char) :
    e.matchesIn text = true ↔ ∃ i j, i ≤ text.length ∧ e.Matches text i j := by
  have hall : ∀ i, ((1 <<< (text.length + 1)) - 1).testBit i = true ↔ i ≤ text.length := by
    intro i
    rw [Nat.one_shiftLeft, Nat.testBit_two_pow_sub_one, decide_eq_true_eq, Nat.lt_succ_iff]
  have hacts := acts_run text e _ fun i hi => (hall i).mp hi
  rw [matchesIn, length_places, bne_iff_ne, ne_eq]
  constructor
  · intro hne
    obtain ⟨j, hj⟩ := Nat.exists_testBit_of_ne_zero hne
    obtain ⟨i, hi, hij⟩ := (hacts j).mp hj
    exact ⟨i, j, (hall i).mp hi, hij⟩
  · rintro ⟨i, j, hi, hij⟩ hzero
    have hj := (hacts j).mpr ⟨i, (hall i).mpr hi, hij⟩
    rw [hzero, Nat.zero_testBit] at hj
    cases hj

/-- No time is spent on rounds that do not get on. -/
example : (repeated empty 1000000 none).matchesIn [] = true := by
  decide

end Expr

/-- A pattern matches the texts in which its expression matches something. -/
theorem Pattern.isMatch_iff {options : PatternOptions} {source : String} {p : Pattern}
    (h : Pattern.ofText? options source = some p) :
    ∃ e, Expr.ofText? options source = some e ∧ p.source = source ∧
      ∀ text, p.isMatch text = true ↔
        ∃ i j, i ≤ text.length ∧ e.Matches text.toList i j := by
  obtain ⟨e, he, rfl⟩ := Option.map_eq_some_iff.mp h
  exact ⟨e, he, rfl, fun text => e.matchesIn_iff text.toList⟩

end EnvMarkers
