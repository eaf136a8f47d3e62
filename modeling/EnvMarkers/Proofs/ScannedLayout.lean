import EnvMarkers.Proofs.Layout

/-!
# Scanned texts are layouts

The reader of lexemes reads nothing but layouts: a text that it accepts consists of the lexemes that
it gives, with white space around them that is there at least between two that would run into each
other (`Lexeme.layout_of_scan`).  So the texts of a lexeme sequence are exactly its layouts
(`Lexeme.scan_eq_ok_iff`).

The induction is on the characters ahead of the reader.  What it shows is that these, behind the
characters of the lexeme that is still growing (`Pending.chars`), are a layout
(`Scan.adds_of_run`).
-/

namespace EnvMarkers.Lexeme

/-! ### One lexeme in front of a layout -/

/-- A lexeme that another one would run into begins with a character that extends that one. -/
theorem Spells.extends_of_runsInto {l next : Lexeme} {cs : List Char} (h : Spells next cs)
    (hruns : l.runsInto next = true) : ∃ c ds, cs = c :: ds ∧ l.extendedBy c = true := by
  cases h with
  | word hne hw =>
    obtain ⟨c, ds, hcs, hc, -⟩ := Scan.exists_cons_of_ne_empty hne hw
    cases l with
    | word v => exact ⟨c, ds, hcs, hc⟩
    | _ => cases hruns
  | symbol hs =>
    obtain ⟨hne, hchars⟩ := of_mem_symbols hs
    obtain ⟨c, ds, hcs, hc, -⟩ := Scan.exists_cons_of_ne_empty hne hchars
    cases l with
    | symbol t => exact ⟨c, ds, hcs, hc⟩
    | _ => cases hruns
  | _ => cases l <;> cases hruns

/-- A lexeme may be written in front of a layout that does not go on with it. -/
theorem Layout.spells_append {l : Lexeme} {ls : List Lexeme} {cs rest : List Char}
    (hl : Spells l cs) (hrest : Layout ls rest)
    (hend : ∀ c ∈ rest.head?, l.extendedBy c = false) : Layout (l :: ls) (cs ++ rest) := by
  have hapart : ∀ next ∈ ls.head?, l.runsInto next = true →
      ∃ c ∈ rest.head?, Text.isBlank c = true := by
    intro next hnext hruns
    cases hrest with
    | nil => cases hnext
    | @cons gap ds tail _ _ hgap hspells _ _ =>
      obtain rfl := Option.some.inj hnext
      cases gap with
      | cons d gap => exact ⟨d, rfl, hgap d List.mem_cons_self⟩
      | nil =>
        -- Without white space the first character of `next` would belong to `l`.
        obtain ⟨c, ds', rfl, hc⟩ := hspells.extends_of_runsInto hruns
        have hnot : l.extendedBy c = false := hend c rfl
        rw [hc] at hnot
        cases hnot
  have hblanks : Blanks [] := fun _ hc => nomatch hc
  exact .cons hblanks hl hrest hapart

/-! ### Reading on -/

/-- The characters of the growing lexeme that have been read. -/
def Pending.chars : Pending → List Char
  | .nothing => []
  | .word text => text.toList
  | .symbol text => text.toList
  | .quoted mark text => mark :: text.toList

/-- Whether these characters can begin a lexeme.  An operator is only judged when it ends. -/
def Pending.Begins : Pending → Prop
  | .nothing => True
  | .word text => text ≠ "" ∧ ∀ c ∈ text.toList, isWordChar c = true
  | .symbol _ => True
  | .quoted mark text => (mark = '\'' ∨ mark = '"') ∧ mark ∉ text.toList

namespace Scan

/-- What a reader makes of a character with which a lexeme may begin. -/
theorem beginAt_cases {done : List Lexeme} {c : Char} {s : Scan} (h : beginAt done c = .ok s) :
    (Text.isBlank c = true ∧ s = ⟨done, .nothing⟩) ∨
      (∃ l, Spells l [c] ∧ (∀ d, l.extendedBy d = false) ∧ s = ⟨l :: done, .nothing⟩) ∨
      ∃ pending : Pending, pending.Begins ∧ pending.chars = [c] ∧ s = ⟨done, pending⟩ := by
  unfold beginAt at h
  split_ifs at h with hblank hopen hclose hquote hsymbol hword
  · obtain rfl := Except.ok.inj h
    exact .inl ⟨hblank, rfl⟩
  · obtain rfl := Except.ok.inj h
    obtain rfl := beq_iff_eq.mp hopen
    exact .inr (.inl ⟨_, .openParen, fun _ => rfl, rfl⟩)
  · obtain rfl := Except.ok.inj h
    obtain rfl := beq_iff_eq.mp hclose
    exact .inr (.inl ⟨_, .closeParen, fun _ => rfl, rfl⟩)
  · obtain rfl := Except.ok.inj h
    rw [Bool.or_eq_true, beq_iff_eq, beq_iff_eq] at hquote
    have hbegins : (Pending.quoted c "").Begins := ⟨hquote, by simp⟩
    exact .inr (.inr ⟨_, hbegins, by simp [Pending.chars], rfl⟩)
  · obtain rfl := Except.ok.inj h
    have hbegins : (Pending.symbol (String.singleton c)).Begins := trivial
    exact .inr (.inr ⟨_, hbegins, by simp [Pending.chars], rfl⟩)
  · obtain rfl := Except.ok.inj h
    have hbegins : (Pending.word (String.singleton c)).Begins := ⟨by simp, by simp [hword]⟩
    exact .inr (.inr ⟨_, hbegins, by simp [Pending.chars], rfl⟩)

/-- Whether `out` adds to the complete lexemes, the latest first, those of a layout. -/
def Adds (done : List Lexeme) (cs : List Char) (out : List Lexeme) : Prop :=
  ∃ ls, out = ls.reverse ++ done ∧ Layout ls cs

/-- The latest of the complete lexemes may be counted among those that are added. -/
theorem Adds.spells {l : Lexeme} {done out : List Lexeme} {ds cs : List Char}
    (h : Adds (l :: done) cs out) (hl : Spells l ds)
    (hend : ∀ c ∈ cs.head?, l.extendedBy c = false) : Adds done (ds ++ cs) out := by
  obtain ⟨ls, rfl, hls⟩ := h
  exact ⟨l :: ls, by simp, hls.spells_append hl hend⟩

/-- Where no lexeme is growing, what is read of a text is what is read of it behind its first
character. -/
theorem adds_of_run_cons {done out : List Lexeme} {c : Char} {cs : List Char}
    (ih : ∀ s : Scan, s.pending.Begins → s.run cs = .ok out →
      Adds s.done (s.pending.chars ++ cs) out)
    (h : run ⟨done, .nothing⟩ (c :: cs) = .ok out) : Adds done (c :: cs) out := by
  rw [run_cons] at h
  cases hstep : step ⟨done, .nothing⟩ c with
  | error fault =>
    rw [hstep] at h
    cases h
  | ok s =>
    rw [hstep] at h
    obtain ⟨hblank, rfl⟩ | ⟨l, hl, hend, rfl⟩ | ⟨pending, hbegins, hchars, rfl⟩ :=
      beginAt_cases hstep
    · obtain ⟨ls, hout, hls⟩ := ih ⟨done, .nothing⟩ trivial h
      have hgap : Blanks [c] := by
        intro d hd
        obtain rfl := List.mem_singleton.mp hd
        exact hblank
      exact ⟨ls, hout, hls.blanks_append hgap⟩
    · have hadds := ih ⟨l :: done, .nothing⟩ trivial h
      exact hadds.spells hl fun d _ => hend d
    · have hadds := ih ⟨done, pending⟩ hbegins h
      rwa [hchars] at hadds

/-- The characters that a reader accepts are a layout, behind those of the growing lexeme. -/
theorem adds_of_run {s : Scan} (hs : s.pending.Begins) {cs : List Char} {out : List Lexeme}
    (h : s.run cs = .ok out) : Adds s.done (s.pending.chars ++ cs) out := by
  induction cs generalizing s with
  | nil =>
    obtain ⟨done, pending⟩ := s
    have hnil : ∀ done, Adds done [] done := fun _ => ⟨[], rfl, .nil fun _ hc => nomatch hc⟩
    have hend : ∀ l : Lexeme, ∀ c ∈ ([] : List Char).head?, l.extendedBy c = false :=
      fun _ _ hc => nomatch hc
    rw [run_nil] at h
    cases pending with
    | nothing =>
      obtain rfl := Except.ok.inj h
      exact hnil done
    | word text =>
      obtain rfl := Except.ok.inj h
      exact (hnil _).spells (.word hs.1 hs.2) (hend _)
    | symbol text =>
      simp only [close] at h
      split_ifs at h with htext
      obtain rfl := Except.ok.inj h
      exact (hnil _).spells (.symbol htext) (hend _)
    | quoted mark text => cases h
  | cons c cs ih =>
    have hbegin : ∀ done, run ⟨done, .nothing⟩ (c :: cs) = .ok out → Adds done (c :: cs) out :=
      fun done => adds_of_run_cons fun s hs h => ih hs h
    obtain ⟨done, pending⟩ := s
    -- The growing lexeme goes on with `c`, is closed by it, or has ended in front of it.
    cases pending with
    | nothing => exact hbegin done h
    | word text =>
      by_cases hc : isWordChar c = true
      · rw [run_cons, step_word text c hc] at h
        have hbegins : (Pending.word (text.push c)).Begins := by
          refine ⟨by simp, ?_⟩
          rw [String.toList_push, List.forall_mem_append]
          exact ⟨hs.2, fun d hd => List.mem_singleton.mp hd ▸ hc⟩
        have hadds := ih (s := ⟨done, .word (text.push c)⟩) hbegins h
        simpa [Pending.chars] using hadds
      · have hend : ∀ d ∈ (c :: cs).head?, isWordChar d = false := by
          rintro d ⟨⟩
          exact Bool.eq_false_iff.mpr hc
        rw [run_word_end done text hend] at h
        exact (hbegin _ h).spells (.word hs.1 hs.2) hend
    | symbol text =>
      by_cases hc : isSymbolChar c = true
      · rw [run_cons, step_symbol text c hc] at h
        have hadds := ih (s := ⟨done, .symbol (text.push c)⟩) trivial h
        simpa [Pending.chars] using hadds
      · have hend : ∀ d ∈ (c :: cs).head?, isSymbolChar d = false := by
          rintro d ⟨⟩
          exact Bool.eq_false_iff.mpr hc
        by_cases htext : text ∈ symbols
        · rw [run_symbol_end done htext hend] at h
          exact (hbegin _ h).spells (.symbol htext) hend
        · rw [run_cons] at h
          simp only [step, close, if_neg hc, if_neg htext] at h
          cases h
    | quoted mark text =>
      by_cases hc : c = mark
      · subst hc
        have hclose : step ⟨done, .quoted c text⟩ c = .ok ⟨.quoted text :: done, .nothing⟩ :=
          if_pos (beq_self_eq_true c)
        rw [run_cons, hclose] at h
        have hadds := ih (s := ⟨.quoted text :: done, .nothing⟩) trivial h
        have hquoted := hadds.spells (.quoted hs.1 hs.2) fun _ _ => rfl
        simpa [Pending.chars] using hquoted
      · rw [run_cons, step_quoted text c hc] at h
        have hbegins : (Pending.quoted mark (text.push c)).Begins := by
          refine ⟨hs.1, ?_⟩
          rw [String.toList_push, List.mem_append, List.mem_singleton, not_or]
          exact ⟨hs.2, fun heq => hc heq.symm⟩
        have hadds := ih (s := ⟨done, .quoted mark (text.push c)⟩) hbegins h
        simpa [Pending.chars] using hadds

end Scan

/-! ### Whole texts -/

theorem layout_of_scan {cs : List Char} {ls : List Lexeme} (h : scan cs = .ok ls) :
    Layout ls cs := by
  rw [scan_eq_run] at h
  cases hrun : Scan.run ⟨[], .nothing⟩ cs with
  | error fault =>
    rw [hrun] at h
    cases h
  | ok out =>
    rw [hrun] at h
    have hadds := Scan.adds_of_run (s := ⟨[], .nothing⟩) trivial hrun
    obtain ⟨found, hout, hlayout⟩ := hadds
    obtain rfl := Except.ok.inj h
    rw [hout, List.append_nil, List.reverse_reverse]
    exact hlayout

/-- The texts that are read as a lexeme sequence are its layouts. -/
theorem scan_eq_ok_iff {cs : List Char} {ls : List Lexeme} : scan cs = .ok ls ↔ Layout ls cs :=
  ⟨layout_of_scan, scan_of_layout⟩

theorem Layout.exists_spells {ls : List Lexeme} {cs : List Char} (h : Layout ls cs) :
    ∀ l ∈ ls, ∃ ds, Spells l ds := by
  induction h with
  | nil => exact fun _ hl => nomatch hl
  | cons _ hl _ _ ih => exact List.forall_mem_cons.mpr ⟨⟨_, hl⟩, ih⟩

end EnvMarkers.Lexeme
