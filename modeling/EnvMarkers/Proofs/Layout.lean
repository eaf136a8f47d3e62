import EnvMarkers.Marker.Lexeme
import Mathlib.Tactic.SplitIfs

/-!
# Layouts

A lexeme sequence is written down by writing its lexemes one after another with white space around
them, which may be left out except where two words or two operators would run together
(`Lexeme.Layout`).  The reader of lexemes recovers the sequence from each of its layouts
(`Lexeme.scan_of_layout`), and white space at the ends of a text makes no difference to it
(`Lexeme.scan_trimChars`).

The work is done in `Scan.run`, which reads a text from any state of the reader: `run_spells` reads
one lexeme, provided that what follows does not extend it.
-/

namespace EnvMarkers.Lexeme

/-! ### Kinds of characters

White space, the characters of words, those of operators, the quotes and the parentheses have no
character in common. -/

/-- Characters of words by their code points. -/
theorem toNat_of_isWordChar {c : Char} (h : isWordChar c = true) :
    (48 ≤ c.toNat ∧ c.toNat ≤ 57) ∨ (65 ≤ c.toNat ∧ c.toNat ≤ 90) ∨
      (97 ≤ c.toNat ∧ c.toNat ≤ 122) ∨ c.toNat = 95 ∨ c.toNat = 46 := by
  have hclass : (decide (65 ≤ c.val ∧ c.val ≤ 90) || (97 ≤ c.val && c.val ≤ 122) ||
      (48 ≤ c.val && c.val ≤ 57) || c == '_' || c == '.') = true := h
  simp only [Bool.or_eq_true, Bool.and_eq_true, decide_eq_true_eq, beq_iff_eq,
    UInt32.le_iff_toNat_le] at hclass
  rcases hclass with (((h | h) | h) | rfl) | rfl
  · exact .inr (.inl h)
  · exact .inr (.inr (.inl h))
  · exact .inl h
  · decide
  · decide

theorem isBlank_of_isWordChar {c : Char} (h : isWordChar c = true) : Text.isBlank c = false := by
  have hn := toNat_of_isWordChar h
  simp only [Text.isBlank, Bool.or_eq_false_iff, Bool.and_eq_false_iff, decide_eq_false_iff_not,
    beq_eq_false_iff_ne]
  omega

theorem isBlank_of_isSymbolChar {c : Char} (h : isSymbolChar c = true) :
    Text.isBlank c = false := by
  simp only [isSymbolChar, Bool.or_eq_true, beq_iff_eq] at h
  rcases h with (((rfl | rfl) | rfl) | rfl) | rfl <;> decide

theorem isWordChar_of_isSymbolChar {c : Char} (h : isSymbolChar c = true) :
    isWordChar c = false := by
  simp only [isSymbolChar, Bool.or_eq_true, beq_iff_eq] at h
  rcases h with (((rfl | rfl) | rfl) | rfl) | rfl <;> decide

/-- The characters that are a lexeme of their own or begin and end one. -/
def isMark (c : Char) : Bool :=
  c == '(' || c == ')' || c == '\'' || c == '"'

theorem of_isMark {c : Char} (h : isMark c = true) :
    Text.isBlank c = false ∧ isWordChar c = false ∧ isSymbolChar c = false := by
  simp only [isMark, Bool.or_eq_true, beq_iff_eq] at h
  rcases h with ((rfl | rfl) | rfl) | rfl <;> decide

/-- A character of one kind is not of another one. -/
theorem eq_false_of_disjoint (p q : Char → Bool) (h : ∀ c, p c = true → q c = false) {c : Char}
    (hc : q c = true) : p c = false := by
  apply Bool.eq_false_iff.mpr
  intro hp
  rw [h c hp] at hc
  cases hc

theorem isMark_of_isBlank {c : Char} (h : Text.isBlank c = true) : isMark c = false :=
  eq_false_of_disjoint isMark Text.isBlank (fun _ hm => (of_isMark hm).1) h

theorem isMark_of_isWordChar {c : Char} (h : isWordChar c = true) : isMark c = false :=
  eq_false_of_disjoint isMark isWordChar (fun _ hm => (of_isMark hm).2.1) h

theorem isMark_of_isSymbolChar {c : Char} (h : isSymbolChar c = true) : isMark c = false :=
  eq_false_of_disjoint isMark isSymbolChar (fun _ hm => (of_isMark hm).2.2) h

theorem isWordChar_of_isBlank {c : Char} (h : Text.isBlank c = true) : isWordChar c = false :=
  eq_false_of_disjoint isWordChar Text.isBlank (fun _ => isBlank_of_isWordChar) h

theorem isSymbolChar_of_isBlank {c : Char} (h : Text.isBlank c = true) : isSymbolChar c = false :=
  eq_false_of_disjoint isSymbolChar Text.isBlank (fun _ => isBlank_of_isSymbolChar) h

theorem isSymbolChar_of_isWordChar {c : Char} (h : isWordChar c = true) : isSymbolChar c = false :=
  eq_false_of_disjoint isSymbolChar isWordChar (fun _ => isWordChar_of_isSymbolChar) h

/-! ### Beginning a lexeme -/

namespace Scan

theorem beginAt_blank (done : List Lexeme) {c : Char} (h : Text.isBlank c = true) :
    beginAt done c = .ok ⟨done, .nothing⟩ := by
  rw [beginAt, if_pos h]

theorem beginAt_word (done : List Lexeme) {c : Char} (h : isWordChar c = true) :
    beginAt done c = .ok ⟨done, .word (String.singleton c)⟩ := by
  have hs := isSymbolChar_of_isWordChar h
  have hm := isMark_of_isWordChar h
  simp only [isMark, Bool.or_eq_false_iff] at hm
  simp only [beginAt, isBlank_of_isWordChar h, hm, hs, h, Bool.or_self, Bool.false_eq_true,
    if_false, if_true]

theorem beginAt_symbol (done : List Lexeme) {c : Char} (h : isSymbolChar c = true) :
    beginAt done c = .ok ⟨done, .symbol (String.singleton c)⟩ := by
  have hm := isMark_of_isSymbolChar h
  simp only [isMark, Bool.or_eq_false_iff] at hm
  simp only [beginAt, isBlank_of_isSymbolChar h, hm, h, Bool.or_self, Bool.false_eq_true,
    if_false, if_true]

/-! ### Reading on from a state -/

/-- The lexemes of a text, the latest first, for a reader that goes on from a state. -/
def run (s : Scan) (cs : List Char) : Except TextFault (List Lexeme) :=
  cs.foldlM step s >>= close

theorem run_nil (s : Scan) : s.run [] = s.close :=
  rfl

theorem run_cons (s : Scan) (c : Char) (cs : List Char) :
    s.run (c :: cs) = s.step c >>= fun s => s.run cs := by
  simp only [run, List.foldlM_cons, bind_assoc]

/-- White space between lexemes is skipped. -/
theorem run_blanks (done : List Lexeme) {gap : List Char} (hgap : ∀ c ∈ gap, Text.isBlank c = true)
    (rest : List Char) : run ⟨done, .nothing⟩ (gap ++ rest) = run ⟨done, .nothing⟩ rest := by
  induction gap with
  | nil => rfl
  | cons c gap ih =>
    rw [List.forall_mem_cons] at hgap
    rw [List.cons_append, run_cons]
    have hstep : step ⟨done, .nothing⟩ c = .ok ⟨done, .nothing⟩ := beginAt_blank done hgap.1
    rw [hstep]
    exact ih hgap.2

/-- A lexeme that has begun, of whatever kind, grows by the characters that extend it. -/
theorem run_grow (done : List Lexeme) {pending : String → Pending} {grows : Char → Prop}
    (hstep : ∀ text c, grows c →
      step ⟨done, pending text⟩ c = .ok ⟨done, pending (text.push c)⟩)
    (text : String) {cs : List Char} (hcs : ∀ c ∈ cs, grows c) (rest : List Char) :
    run ⟨done, pending text⟩ (cs ++ rest) =
      run ⟨done, pending (text ++ String.ofList cs)⟩ rest := by
  induction cs generalizing text with
  | nil => simp
  | cons c cs ih =>
    rw [List.forall_mem_cons] at hcs
    have htext : text.push c ++ String.ofList cs = text ++ String.ofList (c :: cs) := by
      rw [← String.toList_inj]
      simp
    rw [List.cons_append, run_cons, hstep text c hcs.1, ← htext]
    exact ih (text.push c) hcs.2

theorem step_word {done : List Lexeme} (text : String) (c : Char) (h : isWordChar c = true) :
    step ⟨done, .word text⟩ c = .ok ⟨done, .word (text.push c)⟩ :=
  if_pos h

theorem step_symbol {done : List Lexeme} (text : String) (c : Char) (h : isSymbolChar c = true) :
    step ⟨done, .symbol text⟩ c = .ok ⟨done, .symbol (text.push c)⟩ :=
  if_pos h

theorem step_quoted {done : List Lexeme} {mark : Char} (text : String) (c : Char) (h : c ≠ mark) :
    step ⟨done, .quoted mark text⟩ c = .ok ⟨done, .quoted mark (text.push c)⟩ :=
  if_neg fun hc => h (beq_iff_eq.mp hc)

/-- A text of characters that extend a lexeme has a first one. -/
theorem exists_cons_of_ne_empty {text : String} (hne : text ≠ "") {grows : Char → Prop}
    (htext : ∀ c ∈ text.toList, grows c) :
    ∃ c cs, text.toList = c :: cs ∧ grows c ∧ ∀ d ∈ cs, grows d := by
  cases hcs : text.toList with
  | nil => exact absurd (String.toList_eq_nil_iff.mp hcs) hne
  | cons c cs =>
    rw [hcs, List.forall_mem_cons] at htext
    exact ⟨c, cs, rfl, htext⟩

/-- A lexeme of characters that begin and extend it is growing when they have been read. -/
theorem run_begin_grow (done : List Lexeme) {pending : String → Pending} {grows : Char → Prop}
    (hbegin : ∀ c, grows c → step ⟨done, .nothing⟩ c = .ok ⟨done, pending (String.singleton c)⟩)
    (hstep : ∀ text c, grows c →
      step ⟨done, pending text⟩ c = .ok ⟨done, pending (text.push c)⟩)
    {text : String} (hne : text ≠ "") (htext : ∀ c ∈ text.toList, grows c) (rest : List Char) :
    run ⟨done, .nothing⟩ (text.toList ++ rest) = run ⟨done, pending text⟩ rest := by
  obtain ⟨c, cs, hcs, hc, hgrow⟩ := exists_cons_of_ne_empty hne htext
  have hwhole : String.singleton c ++ String.ofList cs = text := by
    rw [← String.toList_inj, hcs]
    simp
  rw [hcs, List.cons_append, run_cons, hbegin c hc]
  show run ⟨done, pending (String.singleton c)⟩ (cs ++ rest) = _
  rw [run_grow done hstep _ hgrow, hwhole]

/-- A word ends where no character of words follows. -/
theorem run_word_end (done : List Lexeme) (text : String) {rest : List Char}
    (hrest : ∀ c ∈ rest.head?, isWordChar c = false) :
    run ⟨done, .word text⟩ rest = run ⟨.word text :: done, .nothing⟩ rest := by
  cases rest with
  | nil => rfl
  | cons c rest =>
    have hc : isWordChar c = false := hrest c rfl
    rw [run_cons, run_cons]
    congr 1
    simp only [step, hc, Bool.false_eq_true, if_false, close]
    rfl

/-- An operator ends where no character of operators follows. -/
theorem run_symbol_end (done : List Lexeme) {text : String} (htext : text ∈ symbols)
    {rest : List Char} (hrest : ∀ c ∈ rest.head?, isSymbolChar c = false) :
    run ⟨done, .symbol text⟩ rest = run ⟨.symbol text :: done, .nothing⟩ rest := by
  cases rest with
  | nil => exact if_pos htext
  | cons c rest =>
    have hc : isSymbolChar c = false := hrest c rfl
    rw [run_cons, run_cons]
    congr 1
    simp only [step, hc, Bool.false_eq_true, if_false, close, if_pos htext]
    rfl

/-! ### White space at the ends of a text -/

/-- A reader that waits for a quote waits for one of the two quotes. -/
def QuotesOnly (s : Scan) : Prop :=
  ∀ mark text, s.pending = .quoted mark text → isMark mark = true

theorem quotesOnly_of_beginAt {done : List Lexeme} {c : Char} {s : Scan}
    (h : beginAt done c = .ok s) : s.QuotesOnly := by
  intro mark text hmark
  unfold beginAt at h
  split_ifs at h with hblank hopen hclose hquote hsymbol hword
  all_goals obtain rfl := Except.ok.inj h
  all_goals cases hmark
  simp only [isMark, Bool.or_assoc, hquote, Bool.or_true]

theorem quotesOnly_of_step {s s' : Scan} {c : Char} (hs : s.QuotesOnly)
    (h : s.step c = .ok s') : s'.QuotesOnly := by
  obtain ⟨done, pending⟩ := s
  cases pending with
  | nothing => exact quotesOnly_of_beginAt h
  | word text =>
    simp only [step, close] at h
    split_ifs at h with hc
    · obtain rfl := Except.ok.inj h
      exact fun _ _ hmark => nomatch hmark
    · exact quotesOnly_of_beginAt h
  | symbol text =>
    simp only [step, close] at h
    split_ifs at h with hc htext
    · obtain rfl := Except.ok.inj h
      exact fun _ _ hmark => nomatch hmark
    · exact quotesOnly_of_beginAt h
    · cases h
  | quoted mark text =>
    simp only [step] at h
    split_ifs at h with hc
    · obtain rfl := Except.ok.inj h
      exact fun _ _ hmark => nomatch hmark
    · obtain rfl := Except.ok.inj h
      intro mark' text' hmark
      cases hmark
      exact hs mark text rfl

/-- A blank ends what is growing just as the end of the text would. -/
theorem step_blank_close {s : Scan} (hs : s.QuotesOnly) {c : Char}
    (hc : Text.isBlank c = true) : (s.step c >>= close) = s.close := by
  obtain ⟨done, pending⟩ := s
  cases pending with
  | nothing =>
    simp only [step, beginAt_blank done hc]
    rfl
  | word text =>
    simp only [step, isWordChar_of_isBlank hc, Bool.false_eq_true, if_false]
    exact congrArg (· >>= close) (beginAt_blank (.word text :: done) hc)
  | symbol text =>
    simp only [step, isSymbolChar_of_isBlank hc, Bool.false_eq_true, if_false, close]
    split_ifs
    · exact congrArg (· >>= close) (beginAt_blank (.symbol text :: done) hc)
    · rfl
  | quoted mark text =>
    -- An open quote stays open, since it is not a blank that would close it.
    have hmark : c ≠ mark := by
      rintro rfl
      have hm := hs c text rfl
      rw [isMark_of_isBlank hc] at hm
      cases hm
    rw [step_quoted text c hmark]
    rfl

/-- White space at the end of a text changes nothing. -/
theorem run_append_blanks {s : Scan} (hs : s.QuotesOnly) (cs : List Char) {gap : List Char}
    (hgap : ∀ c ∈ gap, Text.isBlank c = true) : s.run (cs ++ gap) = s.run cs := by
  induction cs generalizing s with
  | nil =>
    -- The first blank ends what is growing, and the others are skipped.
    rw [List.nil_append, run_nil]
    induction gap generalizing s with
    | nil => rfl
    | cons c gap ih =>
      rw [List.forall_mem_cons] at hgap
      rw [run_cons, ← step_blank_close hs hgap.1]
      cases hstep : s.step c with
      | error fault => rfl
      | ok s' => exact ih hgap.2 (quotesOnly_of_step hs hstep)
  | cons c cs ih =>
    rw [List.cons_append, run_cons, run_cons]
    cases hstep : s.step c with
    | error fault => rfl
    | ok s' => exact ih (quotesOnly_of_step hs hstep)

end Scan

/-- A text is read from the state in which nothing has been seen. -/
theorem scan_eq_run (cs : List Char) :
    scan cs = (Scan.run ⟨[], .nothing⟩ cs).map List.reverse := by
  simp only [scan, Scan.run, Scan.start]
  cases cs.foldlM Scan.step ⟨[], .nothing⟩ with
  | error fault => rfl
  | ok s => cases s.close <;> rfl

/-- White space at the ends of a text makes no difference to its lexemes. -/
theorem scan_trimChars (cs : List Char) : scan (Text.trimChars cs) = scan cs := by
  have hblank : ∀ (ds : List Char), ∀ c ∈ ds.takeWhile Text.isBlank, Text.isBlank c = true := by
    intro ds c hc
    exact List.all_eq_true.mp List.all_takeWhile c hc
  have hback : cs.dropWhile Text.isBlank = Text.trimChars cs ++
      ((cs.dropWhile Text.isBlank).reverse.takeWhile Text.isBlank).reverse := by
    rw [Text.trimChars, ← List.reverse_append, List.takeWhile_append_dropWhile,
      List.reverse_reverse]
  have hquotes : Scan.QuotesOnly ⟨[], .nothing⟩ := fun _ _ hmark => nomatch hmark
  rw [scan_eq_run, scan_eq_run]
  congr 1
  calc Scan.run ⟨[], .nothing⟩ (Text.trimChars cs)
      = Scan.run ⟨[], .nothing⟩ (cs.dropWhile Text.isBlank) := by
        rw [hback]
        refine (Scan.run_append_blanks hquotes _ fun c hc => ?_).symm
        exact hblank _ c (List.mem_reverse.mp hc)
    _ = Scan.run ⟨[], .nothing⟩ (cs.takeWhile Text.isBlank ++ cs.dropWhile Text.isBlank) :=
        (Scan.run_blanks [] (hblank cs) _).symm
    _ = Scan.run ⟨[], .nothing⟩ cs := by rw [List.takeWhile_append_dropWhile]

/-! ### Layouts -/

/-- Whether every character of a text is white space. -/
def Blanks (gap : List Char) : Prop :=
  ∀ c ∈ gap, Text.isBlank c = true

/-- The characters with which a lexeme is written. -/
inductive Spells : Lexeme → List Char → Prop
  /-- A word is written as it is. -/
  | word {w : String} (hne : w ≠ "") (hw : ∀ c ∈ w.toList, isWordChar c = true) :
    Spells (.word w) w.toList
  /-- An operator is written as it is. -/
  | symbol {s : String} (hs : s ∈ symbols) : Spells (.symbol s) s.toList
  /-- A quoted text is written between two equal quotes that do not occur in it. -/
  | quoted {mark : Char} {text : String} (hmark : mark = '\'' ∨ mark = '"')
    (htext : mark ∉ text.toList) : Spells (.quoted text) (mark :: text.toList ++ [mark])
  /-- `(` -/
  | openParen : Spells .openParen ['(']
  /-- `)` -/
  | closeParen : Spells .closeParen [')']

/-- Whether two lexemes have to be kept apart by white space. -/
def runsInto : Lexeme → Lexeme → Bool
  | word _, word _ => true
  | symbol _, symbol _ => true
  | _, _ => false

/-- The lexemes of a sequence are written one after another, with white space around them that is
there at least between two that would run into each other. -/
inductive Layout : List Lexeme → List Char → Prop
  /-- Behind the last lexeme there may be white space. -/
  | nil {gap : List Char} (hgap : Blanks gap) : Layout [] gap
  /-- In front of a lexeme there may be white space. -/
  | cons {gap cs rest : List Char} {l : Lexeme} {ls : List Lexeme} (hgap : Blanks gap)
    (hl : Spells l cs) (hrest : Layout ls rest)
    (hapart : ∀ next ∈ ls.head?, l.runsInto next = true → ∃ c ∈ rest.head?, Text.isBlank c = true) :
    Layout (l :: ls) (gap ++ cs ++ rest)

/-- Whether a lexeme that ends before a character would go on with it. -/
def extendedBy : Lexeme → Char → Bool
  | word _, c => isWordChar c
  | symbol _, c => isSymbolChar c
  | _, _ => false

theorem extendedBy_of_isBlank (l : Lexeme) {c : Char} (h : Text.isBlank c = true) :
    l.extendedBy c = false := by
  cases l with
  | word w => exact isWordChar_of_isBlank h
  | symbol s => exact isSymbolChar_of_isBlank h
  | quoted q => rfl
  | openParen => rfl
  | closeParen => rfl

theorem extendedBy_of_isMark (l : Lexeme) {c : Char} (h : isMark c = true) :
    l.extendedBy c = false := by
  cases l with
  | word w => exact (of_isMark h).2.1
  | symbol s => exact (of_isMark h).2.2
  | quoted q => rfl
  | openParen => rfl
  | closeParen => rfl

theorem of_mem_symbols {s : String} (h : s ∈ symbols) :
    s ≠ "" ∧ ∀ c ∈ s.toList, isSymbolChar c = true := by
  have hall : ∀ s ∈ symbols, s ≠ "" ∧ s.toList.all isSymbolChar = true := by decide
  exact ⟨(hall s h).1, List.all_eq_true.mp (hall s h).2⟩

/-- A lexeme begins with a character that does not extend the lexeme before it, unless the two run
into each other. -/
theorem Spells.extendedBy_head {l next : Lexeme} {cs : List Char} (h : Spells next cs)
    (hapart : l.runsInto next = false) : ∃ c ds, cs = c :: ds ∧ l.extendedBy c = false := by
  cases h with
  | @word w hne hw =>
    obtain ⟨c, ds, hcs, hc, -⟩ := Scan.exists_cons_of_ne_empty hne hw
    refine ⟨c, ds, hcs, ?_⟩
    cases l with
    | word v => cases hapart
    | symbol s => exact isSymbolChar_of_isWordChar hc
    | quoted q => rfl
    | openParen => rfl
    | closeParen => rfl
  | @symbol s hs =>
    obtain ⟨hne, hchars⟩ := of_mem_symbols hs
    obtain ⟨c, ds, hcs, hc, -⟩ := Scan.exists_cons_of_ne_empty hne hchars
    refine ⟨c, ds, hcs, ?_⟩
    cases l with
    | word v => exact isWordChar_of_isSymbolChar hc
    | symbol t => cases hapart
    | quoted q => rfl
    | openParen => rfl
    | closeParen => rfl
  | quoted hmark htext =>
    refine ⟨_, _, rfl, l.extendedBy_of_isMark ?_⟩
    rcases hmark with rfl | rfl <;> rfl
  | openParen => exact ⟨'(', [], rfl, l.extendedBy_of_isMark rfl⟩
  | closeParen => exact ⟨')', [], rfl, l.extendedBy_of_isMark rfl⟩

/-- What stands behind a lexeme in a layout does not extend it. -/
theorem Layout.extendedBy_head {l : Lexeme} {ls : List Lexeme} {rest : List Char}
    (hrest : Layout ls rest)
    (hapart : ∀ next ∈ ls.head?, l.runsInto next = true → ∃ c ∈ rest.head?, Text.isBlank c = true) :
    ∀ c ∈ rest.head?, l.extendedBy c = false := by
  intro c hc
  cases hrest with
  | nil hgap => exact l.extendedBy_of_isBlank (hgap c (List.mem_of_mem_head? hc))
  | @cons gap cs tail next _ hgap hnext htail _ =>
    -- The next lexeme is one that would be run into, with white space in front of it, or it begins
    -- with a character of another kind.
    cases hruns : l.runsInto next with
    | true =>
      obtain ⟨d, hd, hblank⟩ := hapart next rfl hruns
      obtain rfl := Option.mem_unique hc hd
      exact l.extendedBy_of_isBlank hblank
    | false =>
      cases gap with
      | nil =>
        obtain ⟨d, ds, rfl, hd⟩ := hnext.extendedBy_head hruns
        obtain rfl := Option.some.inj hc
        exact hd
      | cons d gap =>
        obtain rfl := Option.some.inj hc
        exact l.extendedBy_of_isBlank (hgap _ List.mem_cons_self)

/-! ### Reading a layout -/

/-- A lexeme is read off its characters if what follows does not extend it. -/
theorem Scan.run_spells (done : List Lexeme) {l : Lexeme} {cs rest : List Char} (hl : Spells l cs)
    (hrest : ∀ c ∈ rest.head?, l.extendedBy c = false) :
    run ⟨done, .nothing⟩ (cs ++ rest) = run ⟨l :: done, .nothing⟩ rest := by
  cases hl with
  | @word w hne hw =>
    rw [run_begin_grow done (fun _ hc => beginAt_word done hc) step_word hne hw rest]
    exact run_word_end done w hrest
  | @symbol s hs =>
    obtain ⟨hne, hchars⟩ := of_mem_symbols hs
    rw [run_begin_grow done (fun _ hc => beginAt_symbol done hc) step_symbol hne hchars rest]
    exact run_symbol_end done hs hrest
  | @quoted mark text hmark htext =>
    have hstep : step ⟨done, .nothing⟩ mark = .ok ⟨done, .quoted mark ""⟩ := by
      rcases hmark with rfl | rfl <;> rfl
    have hne : ∀ c ∈ text.toList, c ≠ mark := by
      rintro c hc rfl
      exact htext hc
    have hclose : step ⟨done, .quoted mark text⟩ mark = .ok ⟨.quoted text :: done, .nothing⟩ :=
      if_pos (beq_self_eq_true mark)
    rw [List.cons_append, List.cons_append, List.append_assoc, run_cons, hstep]
    refine (run_grow done step_quoted "" hne _).trans ?_
    rw [String.empty_append, String.ofList_toList, List.singleton_append, run_cons, hclose]
    rfl
  | openParen =>
    rw [List.singleton_append, run_cons]
    rfl
  | closeParen =>
    rw [List.singleton_append, run_cons]
    rfl

/-- The reader recovers a lexeme sequence from each of its layouts. -/
theorem Scan.run_layout {ls : List Lexeme} {cs : List Char} (h : Layout ls cs)
    (done : List Lexeme) : run ⟨done, .nothing⟩ cs = .ok (ls.reverse ++ done) := by
  induction h generalizing done with
  | @nil gap hgap =>
    have hrun := run_blanks done hgap []
    rw [List.append_nil] at hrun
    rw [hrun]
    rfl
  | @cons gap cs rest l ls hgap hl hrest hapart ih =>
    rw [List.append_assoc, run_blanks done hgap,
      run_spells done hl (hrest.extendedBy_head hapart), ih]
    simp

/-- A text that is a layout of a lexeme sequence is read as that sequence. -/
theorem scan_of_layout {ls : List Lexeme} {cs : List Char} (h : Layout ls cs) :
    scan cs = .ok ls := by
  rw [scan_eq_run, Scan.run_layout h]
  simp [Except.map]

/-! ### Putting layouts together -/

/-- More white space may be written in front. -/
theorem Layout.blanks_append {gap : List Char} (hgap : Blanks gap) {ls : List Lexeme}
    {cs : List Char} (h : Layout ls cs) : Layout ls (gap ++ cs) := by
  cases h with
  | nil hgap' => exact .nil (List.forall_mem_append.mpr ⟨hgap, hgap'⟩)
  | cons hgap' hl hrest hapart =>
    rw [← List.append_assoc, ← List.append_assoc]
    exact .cons (List.forall_mem_append.mpr ⟨hgap, hgap'⟩) hl hrest hapart

/-- A single lexeme. -/
theorem Layout.single {l : Lexeme} {cs : List Char} (hl : Spells l cs) : Layout [l] cs := by
  have h : Layout [l] ([] ++ cs ++ []) :=
    .cons (fun _ hc => nomatch hc) hl (.nil fun _ hc => nomatch hc) fun _ hnext => nomatch hnext
  rwa [List.nil_append, List.append_nil] at h

/-- A single word. -/
theorem Layout.word {w : String} (hne : w ≠ "") (hw : w.toList.all isWordChar = true) :
    Layout [.word w] w.toList :=
  .single (.word hne (List.all_eq_true.mp hw))

/-- One layout behind another, where white space between them is only needed if they would run
together. -/
theorem Layout.append {ls ms : List Lexeme} {cs ds : List Char} (hls : Layout ls cs)
    (hms : Layout ms ds)
    (hseam : ∀ l ∈ ls.getLast?, ∀ next ∈ ms.head?, l.runsInto next = true →
      ∃ c ∈ ds.head?, Text.isBlank c = true) : Layout (ls ++ ms) (cs ++ ds) := by
  induction hls with
  | nil hgap => exact hms.blanks_append hgap
  | @cons gap cs rest l ls hgap hl hrest hapart ih =>
    rw [List.append_assoc, List.cons_append]
    cases ls with
    | nil =>
      -- The seam is behind `l`, perhaps with white space in `rest`.
      refine .cons hgap hl (ih fun _ hl => nomatch hl) fun next hnext hruns => ?_
      obtain ⟨c, hc, hblank⟩ := hseam l rfl next hnext hruns
      cases hrest with
      | nil hgap' =>
        cases rest with
        | nil => exact ⟨c, hc, hblank⟩
        | cons d rest => exact ⟨d, rfl, hgap' d List.mem_cons_self⟩
    | cons m ls =>
      refine .cons hgap hl (ih fun l hl => hseam l hl) fun next hnext hruns => ?_
      obtain ⟨c, hc, hblank⟩ := hapart next hnext hruns
      cases rest with
      | nil => cases hc
      | cons d rest => exact ⟨c, hc, hblank⟩

theorem blanks_space : Blanks [' '] := by
  intro c hc
  obtain rfl := List.mem_singleton.mp hc
  decide

/-- One layout behind another with a space between them. -/
theorem Layout.append_space {ls ms : List Lexeme} {cs ds : List Char} (hls : Layout ls cs)
    (hms : Layout ms ds) : Layout (ls ++ ms) (cs ++ ' ' :: ds) :=
  hls.append (hms.blanks_append blanks_space) fun _ _ _ _ _ => ⟨' ', rfl, by decide⟩

/-- A layout in parentheses. -/
theorem Layout.paren {ls : List Lexeme} {cs : List Char} (h : Layout ls cs) :
    Layout (.openParen :: (ls ++ [.closeParen])) ('(' :: (cs ++ [')'])) := by
  have hclose : Layout (ls ++ [.closeParen]) (cs ++ [')']) := by
    refine h.append (.single .closeParen) fun l _ next hnext hruns => ?_
    obtain rfl := Option.some.inj hnext
    cases l <;> cases hruns
  exact .append (.single .openParen) hclose fun l hl _ _ hruns => by
    obtain rfl := Option.some.inj hl
    cases hruns

end EnvMarkers.Lexeme
