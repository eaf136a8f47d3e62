import EnvMarkers.Json.Token
import Mathlib.Data.List.Forall2
import Mathlib.Data.List.TakeWhile
import Mathlib.Tactic.SplitIfs

/-!
# Layouts of JSON tokens

Tokens are written down one after another with white space around them, which may be left out except
behind a number or a word that would go on otherwise (`JsonToken.Layout`).  A string is written
between quotes, each of its characters as it is or by an escape (`JsonToken.SpellsChar`).  The
reader of tokens recovers a sequence of them from each of its layouts (`JsonToken.scan?_of_layout`).

As for lexemes, the work is done in `Scan.run`, which reads a text from any state of the reader.
-/

namespace EnvMarkers.JsonToken

/-! ### Layouts -/

/-- The escapes of a single letter, with the characters that they stand for. -/
def shortEscapes : List (Char × Char) :=
  [('"', '"'), ('\\', '\\'), ('/', '/'), ('b', '\x08'), ('f', '\x0c'), ('n', '\n'), ('r', '\r'),
    ('t', '\t')]

/-- Four characters are the hexadecimal digits of a number. -/
def IsHex (ds : List Char) (n : Nat) : Prop :=
  ds.length = 4 ∧ ds.all (fun d => (Text.hexDigit? d).isSome) = true ∧ Text.hexValue ds = n

/-- The characters with which a character of a string is written. -/
inductive SpellsChar : Char → List Char → Prop
  /-- A character that is no control character may be written as it is, but for two. -/
  | plain {c : Char} (hquote : c ≠ '"') (hbackslash : c ≠ '\\') (hcontrol : 0x20 ≤ c.toNat) :
    SpellsChar c [c]
  /-- A few characters have an escape of their own. -/
  | letter {l c : Char} (hl : (l, c) ∈ shortEscapes) : SpellsChar c ['\\', l]
  /-- A character may be written by its code point. -/
  | code {c : Char} {ds : List Char} (hds : IsHex ds c.toNat) : SpellsChar c ('\\' :: 'u' :: ds)
  /-- If its code point does not fit into four digits, it is written by a surrogate pair. -/
  | pair {c : Char} {ds es : List Char} {high low : Nat} (hds : IsHex ds high) (hes : IsHex es low)
    (hhigh : 0xD800 ≤ high ∧ high ≤ 0xDBFF) (hlow : 0xDC00 ≤ low ∧ low ≤ 0xDFFF)
    (hc : c.toNat = 0x10000 + (high - 0xD800) * 0x400 + (low - 0xDC00)) :
    SpellsChar c ('\\' :: 'u' :: ds ++ '\\' :: 'u' :: es)

/-- The characters with which a token is written. -/
inductive Spells : JsonToken → List Char → Prop
  /-- The character `{`. -/
  | openBrace : Spells .openBrace ['{']
  /-- The character `}`. -/
  | closeBrace : Spells .closeBrace ['}']
  /-- The character `[`. -/
  | openBracket : Spells .openBracket ['[']
  /-- The character `]`. -/
  | closeBracket : Spells .closeBracket [']']
  /-- The character `,`. -/
  | comma : Spells .comma [',']
  /-- The character `:`. -/
  | colon : Spells .colon [':']
  /-- The word `null`. -/
  | null : Spells .null ['n', 'u', 'l', 'l']
  /-- The word `true`. -/
  | true : Spells (.bool true) ['t', 'r', 'u', 'e']
  /-- The word `false`. -/
  | false : Spells (.bool false) ['f', 'a', 'l', 's', 'e']
  /-- A number is written as it is. -/
  | number {text : String} (htext : isNumber text.toList = true) :
    Spells (.number text) text.toList
  /-- The characters of a string are written between quotes, each in any spelling. -/
  | string {s : String} {spellings : List (List Char)}
    (hs : List.Forall₂ SpellsChar s.toList spellings) :
    Spells (.string s) ('"' :: (spellings.flatten ++ ['"']))

/-- Whether a token that ends before a character would go on with it. -/
def extendedBy : JsonToken → Char → Bool
  | number _, c => isNumberChar c
  | null, c => c.isAlpha
  | bool _, c => c.isAlpha
  | _, _ => false

/-- The tokens of a sequence are written one after another, with white space around them, in such a
way that none of them goes on with what is behind it. -/
inductive Layout : List JsonToken → List Char → Prop
  /-- There are no tokens, only white space. -/
  | nil {gap : List Char} (hgap : ∀ c ∈ gap, isSpace c = true) : Layout [] gap
  /-- White space, a token, and the others behind it. -/
  | cons {gap cs rest : List Char} {t : JsonToken} {ts : List JsonToken}
    (hgap : ∀ c ∈ gap, isSpace c = true) (ht : Spells t cs) (hrest : Layout ts rest)
    (hend : ∀ c ∈ rest.head?, t.extendedBy c = false) : Layout (t :: ts) (gap ++ cs ++ rest)

/-! ### The characters of numbers -/

theorem isNumberChar_of_isDigit {c : Char} (h : c.isDigit = true) : isNumberChar c = true := by
  simp [isNumberChar, h]

theorem all_isNumberChar_of_dropWhile {cs : List Char}
    (h : ∀ c ∈ cs.dropWhile Char.isDigit, isNumberChar c = true) :
    ∀ c ∈ cs, isNumberChar c = true := by
  intro c hc
  rw [← List.takeWhile_append_dropWhile (p := Char.isDigit) (l := cs), List.mem_append] at hc
  rcases hc with hdigit | hrest
  · exact isNumberChar_of_isDigit (List.all_eq_true.mp List.all_takeWhile c hdigit)
  · exact h c hrest

theorem all_isNumberChar_of_isExponent {cs : List Char} (h : isExponent cs = true) :
    ∀ c ∈ cs, isNumberChar c = true := by
  have hdigits : ∀ {ds : List Char}, (!ds.isEmpty && ds.all Char.isDigit) = true →
      ∀ c ∈ ds, isNumberChar c = true := by
    intro ds hds c hc
    rw [Bool.and_eq_true, List.all_eq_true] at hds
    exact isNumberChar_of_isDigit (hds.2 c hc)
  unfold isExponent at h
  split at h
  · exact List.forall_mem_cons.mpr ⟨by decide, hdigits h⟩
  · exact List.forall_mem_cons.mpr ⟨by decide, hdigits h⟩
  · exact hdigits h

theorem all_isNumberChar_of_isExponentPart {cs : List Char} (h : isExponentPart cs = true) :
    ∀ c ∈ cs, isNumberChar c = true := by
  cases cs with
  | nil => exact fun _ hc => nomatch hc
  | cons c cs =>
    rw [isExponentPart, Bool.and_eq_true] at h
    refine List.forall_mem_cons.mpr ⟨?_, all_isNumberChar_of_isExponent h.2⟩
    rw [isNumberChar, Bool.or_assoc, h.1, Bool.or_true]

theorem all_isNumberChar_of_isFractionPart {cs : List Char} (h : isFractionPart cs = true) :
    ∀ c ∈ cs, isNumberChar c = true := by
  unfold isFractionPart at h
  split at h
  · rw [Bool.and_eq_true] at h
    exact List.forall_mem_cons.mpr
      ⟨by decide, all_isNumberChar_of_dropWhile (all_isNumberChar_of_isExponentPart h.2)⟩
  · exact all_isNumberChar_of_isExponentPart h

theorem all_isNumberChar_of_digit {c : Char} {cs : List Char}
    (h : (c.isDigit && isFractionPart (cs.dropWhile Char.isDigit)) = true) :
    c.isDigit = true ∧ ∀ d ∈ cs, isNumberChar d = true := by
  rw [Bool.and_eq_true] at h
  exact ⟨h.1, all_isNumberChar_of_dropWhile (all_isNumberChar_of_isFractionPart h.2)⟩

/-- A number begins with a digit or a minus sign and goes on with the characters of numbers. -/
theorem exists_cons_of_isNumber {cs : List Char} (h : isNumber cs = true) :
    ∃ c ds, cs = c :: ds ∧ (c.isDigit || c == '-') = true ∧ ∀ d ∈ ds, isNumberChar d = true := by
  unfold isNumber at h
  split at h
  · refine ⟨'-', _, rfl, by decide, ?_⟩
    dsimp only at h
    split at h
    · exact List.forall_mem_cons.mpr ⟨by decide, all_isNumberChar_of_isFractionPart h⟩
    · obtain ⟨hc, hds⟩ := all_isNumberChar_of_digit h
      exact List.forall_mem_cons.mpr ⟨isNumberChar_of_isDigit hc, hds⟩
    · cases h
  · dsimp only at h
    split at h
    · exact ⟨_, _, rfl, by decide, all_isNumberChar_of_isFractionPart h⟩
    · obtain ⟨hc, hds⟩ := all_isNumberChar_of_digit h
      exact ⟨_, _, rfl, by rw [hc, Bool.true_or], hds⟩
    · cases h

namespace Scan

/-! ### Reading on from a state -/

/-- The tokens of a text, the latest first, for a reader that goes on from a state. -/
def run (s : Scan) (cs : List Char) : Option (List JsonToken) :=
  cs.foldlM step? s >>= close?

theorem run_cons (s : Scan) (c : Char) (cs : List Char) :
    s.run (c :: cs) = s.step? c >>= fun s => s.run cs := by
  simp only [run, List.foldlM_cons, bind_assoc]

theorem push_append_ofList (text : String) (c : Char) (cs : List Char) :
    text.push c ++ String.ofList cs = text ++ String.ofList (c :: cs) := by
  rw [← String.toList_inj]
  simp

theorem run_cons_of_step? {s s' : Scan} {c : Char} (h : s.step? c = some s') (cs : List Char) :
    s.run (c :: cs) = s'.run cs := by
  rw [run_cons, h]
  rfl

theorem beginAt?_space (done : List JsonToken) {c : Char} (h : isSpace c = true) :
    beginAt? done c = some ⟨done, .nothing⟩ := by
  simp only [isSpace, Bool.or_eq_true, beq_iff_eq] at h
  rcases h with ((rfl | rfl) | rfl) | rfl <;> rfl

theorem beginAt?_number (done : List JsonToken) {c : Char} (h : (c.isDigit || c == '-') = true) :
    beginAt? done c = some ⟨done, .number (String.singleton c)⟩ := by
  unfold beginAt?
  -- No character with a case of its own is a digit or a minus sign.
  split
  case h_8 =>
    have hspace : isSpace c = false := by
      rw [Bool.or_eq_true, beq_iff_eq] at h
      apply Bool.eq_false_iff.mpr
      intro hc
      simp only [isSpace, Bool.or_eq_true, beq_iff_eq] at hc
      rcases hc with ((rfl | rfl) | rfl) | rfl <;> exact absurd h (by decide)
    rw [hspace, if_neg (by decide), if_pos h]
  all_goals exact absurd h (by decide)

theorem run_space (done : List JsonToken) {gap : List Char}
    (hgap : ∀ c ∈ gap, isSpace c = true) (rest : List Char) :
    run ⟨done, .nothing⟩ (gap ++ rest) = run ⟨done, .nothing⟩ rest := by
  induction gap with
  | nil => rfl
  | cons c gap ih =>
    rw [List.forall_mem_cons] at hgap
    have hstep : step? ⟨done, .nothing⟩ c = some ⟨done, .nothing⟩ := beginAt?_space done hgap.1
    rw [List.cons_append, run_cons_of_step? hstep]
    exact ih hgap.2

theorem run_number (done : List JsonToken) (text : String) {cs : List Char}
    (hcs : ∀ c ∈ cs, isNumberChar c = true) (rest : List Char) :
    run ⟨done, .number text⟩ (cs ++ rest) =
      run ⟨done, .number (text ++ String.ofList cs)⟩ rest := by
  induction cs generalizing text with
  | nil => simp
  | cons c cs ih =>
    rw [List.forall_mem_cons] at hcs
    have hstep : step? ⟨done, .number text⟩ c = some ⟨done, .number (text.push c)⟩ := if_pos hcs.1
    rw [List.cons_append, run_cons_of_step? hstep, ih _ hcs.2, push_append_ofList]

/-- A token ends where nothing follows that extends it. -/
theorem run_end {s : Scan} {t : JsonToken} (hclose : s.close? = some (t :: s.done))
    (hstep : ∀ c, t.extendedBy c = false → s.step? c = s.close? >>= fun done => beginAt? done c)
    {rest : List Char} (hrest : ∀ c ∈ rest.head?, t.extendedBy c = false) :
    run s rest = run ⟨t :: s.done, .nothing⟩ rest := by
  cases rest with
  | nil => exact hclose
  | cons c rest =>
    rw [run_cons, run_cons, hstep c (hrest c rfl), hclose]
    rfl

theorem run_word_end (done : List JsonToken) {word : String} {t : JsonToken}
    (hclose : close? ⟨done, .word word⟩ = some (t :: done))
    (hextended : ∀ c, t.extendedBy c = c.isAlpha) {rest : List Char}
    (hrest : ∀ c ∈ rest.head?, t.extendedBy c = false) :
    run ⟨done, .word word⟩ rest = run ⟨t :: done, .nothing⟩ rest := by
  refine run_end hclose (fun c hc => ?_) hrest
  have hletter : ¬ c.isAlpha = true := by
    rw [← hextended, hc]
    decide
  exact if_neg hletter

theorem run_number_end (done : List JsonToken) {text : String}
    (htext : isNumber text.toList = true) {rest : List Char}
    (hrest : ∀ c ∈ rest.head?, isNumberChar c = false) :
    run ⟨done, .number text⟩ rest = run ⟨.number text :: done, .nothing⟩ rest := by
  have hclose : close? ⟨done, .number text⟩ = some (.number text :: done) := if_pos htext
  refine run_end hclose (fun c hc => ?_) hrest
  have hchar : ¬ isNumberChar c = true := by
    rw [show isNumberChar c = false from hc]
    decide
  exact if_neg hchar

/-! ### Strings -/

theorem step?_hex (done : List JsonToken) (text : String) (digits : List Char) (high : Option Nat)
    {d : Char} (hd : (Text.hexDigit? d).isSome = true) :
    step? ⟨done, .string text (.hex digits high)⟩ d =
      (if digits.length + 1 < 4 then some (text, .hex (d :: digits) high)
        else endHex? text (Text.hexValue (digits.reverse ++ [d])) high).map
          fun (text, state) => ⟨done, .string text state⟩ := by
  have hsome : (Text.hexDigit? d).isNone = false := by
    rw [← Option.not_isSome, hd]
    rfl
  simp [step?, stringStep?, hsome]

/-- The digits of an escape are read together. -/
theorem run_hex (done : List JsonToken) {text text' : String} {high : Option Nat} {ds : List Char}
    {n : Nat} {state : StringState} (hds : IsHex ds n)
    (hend : endHex? text n high = some (text', state)) (rest : List Char) :
    run ⟨done, .string text (.hex [] high)⟩ (ds ++ rest) =
      run ⟨done, .string text' state⟩ rest := by
  obtain ⟨hlength, hall, rfl⟩ := hds
  have hdigits := List.all_eq_true.mp hall
  match ds, hlength with
  | [a, b, c, d], _ =>
    have ha := step?_hex done text [] high (hdigits a (by simp))
    have hb := step?_hex done text [a] high (hdigits b (by simp))
    have hc := step?_hex done text [b, a] high (hdigits c (by simp))
    have hd := step?_hex done text [c, b, a] high (hdigits d (by simp))
    have hlast : step? ⟨done, .string text (.hex [c, b, a] high)⟩ d =
        some ⟨done, .string text' state⟩ := hd.trans (congrArg _ hend)
    rw [List.cons_append, run_cons_of_step? ha, List.cons_append, run_cons_of_step? hb,
      List.cons_append, run_cons_of_step? hc, List.cons_append, run_cons_of_step? hlast,
      List.nil_append]

/-- The code point of a character is no surrogate. -/
theorem endHex?_code (text : String) (c : Char) :
    endHex? text c.toNat none = some (text.push c, .plain) := by
  have hvalid : c.toNat < 0xD800 ∨ 0xDFFF < c.toNat ∧ c.toNat < 0x110000 := c.valid
  rw [endHex?, if_neg (by omega), if_neg (by omega), Char.ofNat_toNat]

/-- A character of a string is read however it is written. -/
theorem run_spellsChar (done : List JsonToken) (text : String) {c : Char} {cs : List Char}
    (h : SpellsChar c cs) (rest : List Char) :
    run ⟨done, .string text .plain⟩ (cs ++ rest) =
      run ⟨done, .string (text.push c) .plain⟩ rest := by
  have hescape : step? ⟨done, .string text .plain⟩ '\\' = some ⟨done, .string text .escape⟩ := rfl
  have hletter : step? ⟨done, .string text .escape⟩ 'u' =
    some ⟨done, .string text (.hex [] none)⟩ := rfl
  cases h with
  | plain hquote hbackslash hcontrol =>
    have hstep : step? ⟨done, .string text .plain⟩ c =
        some ⟨done, .string (text.push c) .plain⟩ := by
      simp [step?, stringStep?, hquote, hbackslash, Nat.not_lt.mpr hcontrol]
    rw [List.singleton_append, run_cons_of_step? hstep]
  | @letter l _ hl =>
    have hall : ∀ p ∈ shortEscapes, p.1 ≠ 'u' ∧ escapedChar? p.1 = some p.2 := by decide
    obtain ⟨hne, hchar⟩ := hall _ hl
    have hstep : step? ⟨done, .string text .escape⟩ l =
        some ⟨done, .string (text.push c) .plain⟩ := by
      simp only at hne hchar
      simp [step?, stringStep?, hne, hchar]
    rw [List.cons_append, run_cons_of_step? hescape, List.singleton_append, run_cons_of_step? hstep]
  | code hds =>
    rw [List.cons_append, run_cons_of_step? hescape, List.cons_append, run_cons_of_step? hletter,
      run_hex done hds (endHex?_code text c)]
  | @pair _ ds es high low hds hes hhigh hlow hc =>
    -- The first half adds nothing yet, and only the second one is accepted behind it.
    have hfirst : endHex? text high none = some (text, .lowBackslash high) := if_pos hhigh
    have hsecond : endHex? text low (some high) = some (text.push c, .plain) := by
      rw [endHex?, if_pos hlow, ← hc, Char.ofNat_toNat]
    have hback : step? ⟨done, .string text (.lowBackslash high)⟩ '\\' =
      some ⟨done, .string text (.lowLetter high)⟩ := rfl
    have hlast : step? ⟨done, .string text (.lowLetter high)⟩ 'u' =
      some ⟨done, .string text (.hex [] (some high))⟩ := rfl
    rw [List.cons_append, List.cons_append, List.cons_append, run_cons_of_step? hescape,
      List.cons_append, run_cons_of_step? hletter, List.append_assoc, run_hex done hds hfirst,
      List.cons_append, run_cons_of_step? hback, List.cons_append, run_cons_of_step? hlast,
      run_hex done hes hsecond]

theorem run_spellings (done : List JsonToken) (text : String) {cs : List Char}
    {spellings : List (List Char)} (h : List.Forall₂ SpellsChar cs spellings) (rest : List Char) :
    run ⟨done, .string text .plain⟩ (spellings.flatten ++ rest) =
      run ⟨done, .string (text ++ String.ofList cs) .plain⟩ rest := by
  induction h generalizing text with
  | nil => simp
  | @cons c spelling cs spellings hc _ ih =>
    rw [List.flatten_cons, List.append_assoc, run_spellsChar done text hc, ih,
      push_append_ofList]

/-! ### Reading a layout -/

/-- A token is read off its characters if what follows does not extend it. -/
theorem run_spells (done : List JsonToken) {t : JsonToken} {cs rest : List Char}
    (ht : Spells t cs) (hrest : ∀ c ∈ rest.head?, t.extendedBy c = false) :
    run ⟨done, .nothing⟩ (cs ++ rest) = run ⟨t :: done, .nothing⟩ rest := by
  cases ht with
  | openBrace => exact run_cons_of_step? rfl rest
  | closeBrace => exact run_cons_of_step? rfl rest
  | openBracket => exact run_cons_of_step? rfl rest
  | closeBracket => exact run_cons_of_step? rfl rest
  | comma => exact run_cons_of_step? rfl rest
  | colon => exact run_cons_of_step? rfl rest
  | null =>
    have hread : run ⟨done, .nothing⟩ (['n', 'u', 'l', 'l'] ++ rest) =
      run ⟨done, .word "null"⟩ rest := rfl
    rw [hread]
    exact run_word_end done rfl (fun _ => rfl) hrest
  | true =>
    have hread : run ⟨done, .nothing⟩ (['t', 'r', 'u', 'e'] ++ rest) =
      run ⟨done, .word "true"⟩ rest := rfl
    rw [hread]
    exact run_word_end done rfl (fun _ => rfl) hrest
  | false =>
    have hread : run ⟨done, .nothing⟩ (['f', 'a', 'l', 's', 'e'] ++ rest) =
      run ⟨done, .word "false"⟩ rest := rfl
    rw [hread]
    exact run_word_end done rfl (fun _ => rfl) hrest
  | @number text htext =>
    obtain ⟨c, ds, hcs, hc, hds⟩ := exists_cons_of_isNumber htext
    have hstep : step? ⟨done, .nothing⟩ c = some ⟨done, .number (String.singleton c)⟩ :=
      beginAt?_number done hc
    have hwhole : String.singleton c ++ String.ofList ds = text := by
      rw [← String.toList_inj, hcs]
      simp
    rw [hcs, List.cons_append, run_cons_of_step? hstep, run_number done _ hds, hwhole]
    exact run_number_end done htext hrest
  | @string s spellings hs =>
    have hopen : step? ⟨done, .nothing⟩ '"' = some ⟨done, .string "" .plain⟩ := rfl
    have hclose : step? ⟨done, .string s .plain⟩ '"' = some ⟨.string s :: done, .nothing⟩ := rfl
    rw [List.cons_append, List.append_assoc, run_cons_of_step? hopen, run_spellings done "" hs,
      String.empty_append, String.ofList_toList, List.singleton_append, run_cons_of_step? hclose]

theorem run_layout {ts : List JsonToken} {cs : List Char} (h : Layout ts cs)
    (done : List JsonToken) : run ⟨done, .nothing⟩ cs = some (ts.reverse ++ done) := by
  induction h generalizing done with
  | @nil gap hgap =>
    have hrun := run_space done hgap []
    rw [List.append_nil] at hrun
    rw [hrun]
    rfl
  | cons hgap ht hrest hend ih =>
    rw [List.append_assoc, run_space done hgap, run_spells done ht hend, ih]
    simp

end Scan

/-- A text that is a layout of a token sequence is read as that sequence. -/
theorem scan?_of_layout {ts : List JsonToken} {cs : List Char} (h : Layout ts cs) :
    scan? cs = some ts := by
  have hrun := Scan.run_layout h []
  rw [List.append_nil, Scan.run] at hrun
  obtain ⟨last, hlast, hclose⟩ := Option.bind_eq_some_iff.mp hrun
  rw [scan?]
  simp only [Scan.start, hlast, hclose, Option.bind_eq_bind, Option.bind_some]
  simp

/-! ### Writing tokens -/

/-- Writes a character of a string: the quote, the backslash and control characters by escapes, any
other character as it is. -/
def escape (c : Char) : List Char :=
  if c = '"' ∨ c = '\\' then ['\\', c]
  else if c.toNat < 0x20 then
    ['\\', 'u', '0', '0', Nat.digitChar (c.toNat / 16), Nat.digitChar (c.toNat % 16)]
  else [c]

theorem spellsChar_escape (c : Char) : SpellsChar c (escape c) := by
  unfold escape
  split_ifs with hmark hcontrol
  · rcases hmark with rfl | rfl
    · exact .letter (by decide)
    · exact .letter (by decide)
  · have hhex : ∀ n < 0x20, IsHex ['0', '0', Nat.digitChar (n / 16), Nat.digitChar (n % 16)] n := by
      unfold IsHex
      decide
    exact .code (hhex c.toNat hcontrol)
  · rw [not_or] at hmark
    exact .plain hmark.1 hmark.2 (Nat.not_lt.mp hcontrol)

/-- Writes a token. -/
def write : JsonToken → List Char
  | openBrace => ['{']
  | closeBrace => ['}']
  | openBracket => ['[']
  | closeBracket => [']']
  | comma => [',']
  | colon => [':']
  | null => ['n', 'u', 'l', 'l']
  | bool true => ['t', 'r', 'u', 'e']
  | bool false => ['f', 'a', 'l', 's', 'e']
  | number text => text.toList
  | string s => '"' :: ((s.toList.map escape).flatten ++ ['"'])

theorem spells_write {t : JsonToken} (h : ∀ text, t = number text → isNumber text.toList = true) :
    Spells t t.write := by
  cases t with
  | openBrace => exact .openBrace
  | closeBrace => exact .closeBrace
  | openBracket => exact .openBracket
  | closeBracket => exact .closeBracket
  | comma => exact .comma
  | colon => exact .colon
  | null => exact .null
  | bool b =>
    cases b with
    | true => exact .true
    | false => exact .false
  | number text => exact .number (h text rfl)
  | string s =>
    exact .string (List.forall₂_map_right_iff.mpr (List.forall₂_same.mpr fun c _ =>
      spellsChar_escape c))

theorem Layout.write_append {t : JsonToken} {ts : List JsonToken} {cs : List Char}
    (ht : ∀ text, t = number text → isNumber text.toList = true) (hts : Layout ts cs)
    (hend : ∀ c ∈ cs.head?, t.extendedBy c = false) : Layout (t :: ts) (t.write ++ cs) := by
  have h : Layout (t :: ts) ([] ++ t.write ++ cs) :=
    .cons (List.forall_mem_nil _) (spells_write ht) hts hend
  exact h

/-- Decimal digits are a number if there is no zero in front of others. -/
theorem isNumber_of_isDigit {c : Char} {ds : List Char} (hc : c.isDigit = true)
    (hds : ∀ d ∈ ds, d.isDigit = true) (hzero : c = '0' → ds = []) :
    isNumber (c :: ds) = true := by
  have hminus : c ≠ '-' := by
    rintro rfl
    exact absurd hc (by decide)
  have hrest : ds.dropWhile Char.isDigit = [] := List.dropWhile_eq_nil_iff.mpr hds
  unfold isNumber
  split
  · next heq => exact absurd (List.cons.inj heq).1 hminus
  · dsimp only
    split
    · next heq =>
      obtain ⟨hc', rfl⟩ := List.cons.inj heq
      rw [hzero hc']
      rfl
    · next heq =>
      obtain ⟨rfl, rfl⟩ := List.cons.inj heq
      rw [hrest, hc]
      rfl
    · next heq => cases heq

end EnvMarkers.JsonToken
