import EnvMarkers.Version.Reading
import Mathlib.Tactic.SplitIfs

/-!
# The characters of versions

A version is written with letters, digits, separators, `+`, `!`, `*` and blanks
(`VersionPattern.isVersionChar`), and a text with any other character in it is read as none
(`VersionPattern.isVersionChar_of_read?`).  Such a text begins neither with `!` nor with any other
character that is no blank, no letter and no digit (`VersionPattern.read?_cons_eq_none`).

Each part of a version is read off the front of what is left of the text.  So it is enough that
every reader passes on all characters that are not of this kind (`VersionPattern.Takes`).
-/

namespace EnvMarkers.VersionPattern

/-- Whether a character may occur in a version, or in blanks around one. -/
def isVersionChar (c : Char) : Bool :=
  c.isAlphanum || isSeparator c || c == '+' || c == '!' || c == '*' || isAsciiBlank c

theorem isVersionChar_of_isAlphanum {c : Char} (h : c.isAlphanum = true) :
    isVersionChar c = true := by
  simp [isVersionChar, h]

theorem isVersionChar_of_isDigit {c : Char} (h : c.isDigit = true) : isVersionChar c = true :=
  isVersionChar_of_isAlphanum (by simp [Char.isAlphanum, h])

theorem isVersionChar_of_isSeparator {c : Char} (h : isSeparator c = true) :
    isVersionChar c = true := by
  simp [isVersionChar, h]

theorem isVersionChar_of_isAsciiBlank {c : Char} (h : isAsciiBlank c = true) :
    isVersionChar c = true := by
  simp [isVersionChar, h]

/-! ### Taking characters off the front -/

/-- Whether only characters of versions are left out of `rest`. -/
def Takes (cs rest : List Char) : Prop :=
  ∀ c ∈ cs, isVersionChar c = true ∨ c ∈ rest

theorem Takes.refl (cs : List Char) : Takes cs cs :=
  fun _ hc => .inr hc

theorem Takes.trans {cs ds es : List Char} (h : Takes cs ds) (h' : Takes ds es) : Takes cs es := by
  intro c hc
  rcases h c hc with hversion | hmem
  · exact .inl hversion
  · exact h' c hmem

theorem takes_cons {c : Char} (h : isVersionChar c = true) (cs : List Char) :
    Takes (c :: cs) cs := by
  intro d hd
  rcases List.mem_cons.mp hd with rfl | hmem
  · exact .inl h
  · exact .inr hmem

theorem takes_append {front : List Char} (h : ∀ c ∈ front, isVersionChar c = true)
    (rest : List Char) : Takes (front ++ rest) rest := by
  intro c hc
  rcases List.mem_append.mp hc with hfront | hrest
  · exact .inl (h c hfront)
  · exact .inr hrest

theorem takes_dropWhile {p : Char → Bool} (hp : ∀ c, p c = true → isVersionChar c = true)
    (cs : List Char) : Takes cs (cs.dropWhile p) := by
  have hfront : ∀ c ∈ cs.takeWhile p, isVersionChar c = true :=
    fun c hc => hp c (List.all_eq_true.mp List.all_takeWhile c hc)
  have h := takes_append hfront (cs.dropWhile p)
  rwa [List.takeWhile_append_dropWhile] at h

theorem takes_dropSeparator (cs : List Char) : Takes cs (dropSeparator cs) := by
  unfold dropSeparator
  split
  · split_ifs with hc
    · exact takes_cons (isVersionChar_of_isSeparator hc) _
    · exact .refl _
  · exact .refl []

/-! ### Words -/

/-- A character that is a letter in lower case is a letter. -/
theorem isAlphanum_of_toLower {c : Char} (h : c.toLower.isAlpha = true) : c.isAlphanum = true := by
  unfold Char.toLower at h
  split at h
  · next hrange =>
    have hupper : c.isUpper = true := decide_eq_true hrange
    show (c.isUpper || c.isLower || c.isDigit) = true
    simp [hupper]
  · simp [Char.isAlphanum, h]

theorem takes_dropWord? {word : String} (hword : word.toList.all Char.isAlpha = true)
    {cs rest : List Char} (h : dropWord? word cs = some rest) : Takes cs rest := by
  simp only [dropWord?] at h
  split_ifs at h with hfront
  obtain rfl := Option.some.inj h
  have htake : ∀ c ∈ cs.take word.length, isVersionChar c = true := by
    intro c hc
    have hlower := List.mem_map_of_mem (f := Char.toLower) hc
    rw [hfront] at hlower
    exact isVersionChar_of_isAlphanum
      (isAlphanum_of_toLower (List.all_eq_true.mp hword _ hlower))
  have hwhole := takes_append htake (cs.drop word.length)
  rwa [List.take_append_drop] at hwhole

theorem takes_dropSpelling? {α : Type} {spellings : List (String × α)}
    (hspellings : ∀ p ∈ spellings, p.1.toList.all Char.isAlpha = true) {cs rest : List Char}
    {meaning : α} (h : dropSpelling? spellings cs = some (meaning, rest)) : Takes cs rest := by
  obtain ⟨⟨word, meaning'⟩, hmem, hword⟩ := List.exists_of_findSome?_eq_some h
  obtain ⟨rest', hrest, hpair⟩ := Option.map_eq_some_iff.mp hword
  obtain ⟨rfl, rfl⟩ := Prod.mk.inj hpair
  exact takes_dropWord? (hspellings _ hmem) hrest

/-! ### Numbers -/

theorem takes_number? {cs rest : List Char} {n : Option Nat} (h : number? cs = some (n, rest)) :
    Takes cs rest := by
  simp only [number?] at h
  split at h
  · obtain ⟨-, rfl⟩ := Prod.mk.inj (Option.some.inj h)
    exact .refl cs
  · split_ifs at h
    obtain ⟨-, rfl⟩ := Prod.mk.inj (Option.some.inj h)
    exact takes_dropWhile (fun _ => isVersionChar_of_isDigit) cs

theorem takes_releaseNumbers (done : List Nat) (current : Nat) (cs : List Char) :
    Takes cs (releaseNumbers done current cs).2 := by
  fun_induction releaseNumbers done current cs with
  | case1 done current => exact .refl []
  | case2 done current d cs hd ih =>
    exact (takes_cons (by decide) _).trans ((takes_cons (isVersionChar_of_isDigit hd) cs).trans ih)
  | case3 done current d cs hd => exact .refl _
  | case4 done current d cs hdot hd ih =>
    exact (takes_cons (isVersionChar_of_isDigit hd) cs).trans ih
  | case5 done current d cs hdot hd => exact .refl _

theorem takes_release? {cs rest : List Char} {numbers : List Nat}
    (h : release? cs = some (numbers, rest)) : Takes cs rest := by
  cases cs with
  | nil => cases h
  | cons d cs =>
    simp only [release?] at h
    split_ifs at h with hd hall
    obtain ⟨-, rfl⟩ := Prod.mk.inj (Option.some.inj h)
    exact (takes_cons (isVersionChar_of_isDigit hd) cs).trans (takes_releaseNumbers [] _ cs)

theorem takes_epoch? {cs rest : List Char} {epoch : Nat} (h : epoch? cs = some (epoch, rest)) :
    Takes cs rest := by
  obtain ⟨⟨n, behind⟩, hnumber, hepoch⟩ := Option.bind_eq_some_iff.mp h
  split at hepoch
  · next heq =>
    obtain ⟨rfl, rfl⟩ := Prod.mk.inj heq
    obtain ⟨-, rfl⟩ := Prod.mk.inj (Option.some.inj hepoch)
    exact (takes_number? hnumber).trans (takes_cons (by decide) _)
  · obtain ⟨-, rfl⟩ := Prod.mk.inj (Option.some.inj hepoch)
    exact .refl cs

/-! ### Parts that are spelled out -/

theorem takes_spelledPart? {α : Type} {spellings : List (String × α)}
    (hspellings : ∀ p ∈ spellings, p.1.toList.all Char.isAlpha = true) {cs rest : List Char}
    {part : Option (α × Nat)} (h : spelledPart? spellings cs = some (part, rest)) :
    Takes cs rest := by
  simp only [spelledPart?] at h
  split at h
  · obtain ⟨-, rfl⟩ := Prod.mk.inj (Option.some.inj h)
    exact .refl cs
  · next hspelling =>
    obtain ⟨⟨n, rest'⟩, hnumber, hpart⟩ := Option.bind_eq_some_iff.mp h
    obtain ⟨-, rfl⟩ := Prod.mk.inj (Option.some.inj hpart)
    exact (takes_dropSeparator cs).trans ((takes_dropSpelling? hspellings hspelling).trans
      ((takes_dropSeparator _).trans (takes_number? hnumber)))

theorem takes_pre? {cs rest : List Char} {pre : Option PreRelease}
    (h : pre? cs = some (pre, rest)) : Takes cs rest := by
  obtain ⟨⟨part, rest'⟩, hpart, hpre⟩ := Option.bind_eq_some_iff.mp h
  obtain ⟨-, rfl⟩ := Prod.mk.inj (Option.some.inj hpre)
  exact takes_spelledPart? (by decide) hpart

theorem takes_post? {cs rest : List Char} {post : Option Nat} (h : post? cs = some (post, rest)) :
    Takes cs rest := by
  have hspelled : ∀ {cs : List Char} {post : Option Nat},
      ((spelledPart? postSpellings cs).bind fun x => some (x.1.map Prod.snd, x.2)) =
        some (post, rest) → Takes cs rest := by
    intro cs post h
    obtain ⟨⟨part, rest'⟩, hpart, hpost⟩ := Option.bind_eq_some_iff.mp h
    obtain ⟨-, rfl⟩ := Prod.mk.inj (Option.some.inj hpost)
    exact takes_spelledPart? (by decide) hpart
  simp only [post?] at h
  split at h
  · -- A number behind a hyphen, or a hyphen in front of the spelling.
    obtain ⟨⟨n, rest'⟩, hnumber, hpost⟩ := Option.bind_eq_some_iff.mp h
    split at hpost
    · next heq =>
      obtain ⟨rfl, rfl⟩ := Prod.mk.inj heq
      obtain ⟨-, rfl⟩ := Prod.mk.inj (Option.some.inj hpost)
      exact (takes_cons (by decide) _).trans (takes_number? hnumber)
    · exact hspelled hpost
  · exact hspelled h

theorem takes_dev? {cs rest : List Char} {dev : Option Nat} (h : dev? cs = some (dev, rest)) :
    Takes cs rest := by
  obtain ⟨⟨part, rest'⟩, hpart, hdev⟩ := Option.bind_eq_some_iff.mp h
  obtain ⟨-, rfl⟩ := Prod.mk.inj (Option.some.inj hdev)
  exact takes_spelledPart? (by decide) hpart

theorem takes_label? {cs rest : List Char} {label : List LabelPart}
    (h : label? cs = some (label, rest)) : Takes cs rest := by
  have hbelongs : ∀ c : Char, (c.isAlphanum || isSeparator c) = true → isVersionChar c = true := by
    intro c hc
    rcases Bool.or_eq_true_iff.mp hc with halphanum | hseparator
    · exact isVersionChar_of_isAlphanum halphanum
    · exact isVersionChar_of_isSeparator hseparator
  unfold label? at h
  split at h
  · simp only at h
    split_ifs at h
    obtain ⟨-, rfl⟩ := Prod.mk.inj (Option.some.inj h)
    exact (takes_cons (by decide) _).trans (takes_dropWhile hbelongs _)
  · obtain ⟨-, rfl⟩ := Prod.mk.inj (Option.some.inj h)
    exact .refl cs

/-! ### Whole versions -/

/-- Only characters of versions occur in what is read as a version. -/
theorem isVersionChar_of_read? {cs : List Char} {pattern : VersionPattern}
    (h : read? cs = some pattern) : ∀ c ∈ cs, isVersionChar c = true := by
  have hnothing : ∀ {cs : List Char}, Takes cs [] → ∀ c ∈ cs, isVersionChar c = true :=
    fun htakes c hc => (htakes c hc).resolve_right (by simp)
  have hblanks := takes_dropWhile (fun _ => isVersionChar_of_isAsciiBlank) cs
  have hletter : Takes (cs.dropWhile isAsciiBlank)
      ((dropWord? "v" (cs.dropWhile isAsciiBlank)).getD (cs.dropWhile isAsciiBlank)) := by
    cases hv : dropWord? "v" (cs.dropWhile isAsciiBlank) with
    | none => exact .refl _
    | some rest => exact takes_dropWord? (by decide) hv
  obtain ⟨⟨epoch, cs₁⟩, hepoch, h⟩ := Option.bind_eq_some_iff.mp h
  obtain ⟨⟨release, cs₂⟩, hrelease, h⟩ := Option.bind_eq_some_iff.mp h
  have hfront := hblanks.trans (hletter.trans
    ((takes_epoch? hepoch).trans (takes_release? hrelease)))
  apply hnothing
  simp only at h
  split_ifs at h with hwildcard
  · have hstar : ∀ c ∈ ['.', '*'], isVersionChar c = true :=
      List.all_eq_true.mp (by decide)
    refine hfront.trans ?_
    rw [hwildcard]
    exact takes_append hstar []
  · obtain ⟨⟨pre, cs₃⟩, hpre, h⟩ := Option.bind_eq_some_iff.mp h
    obtain ⟨⟨post, cs₄⟩, hpost, h⟩ := Option.bind_eq_some_iff.mp h
    obtain ⟨⟨dev, cs₅⟩, hdev, h⟩ := Option.bind_eq_some_iff.mp h
    obtain ⟨⟨label, cs₆⟩, hlabel, h⟩ := Option.bind_eq_some_iff.mp h
    simp only at h
    split_ifs at h with hend
    have hbehind := (takes_pre? hpre).trans ((takes_post? hpost).trans
      ((takes_dev? hdev).trans (takes_label? hlabel)))
    have hlast : Takes cs₆ [] := fun c hc =>
      .inl (isVersionChar_of_isAsciiBlank (List.all_eq_true.mp hend c hc))
    exact hfront.trans (hbehind.trans hlast)

/-- No version begins with a character that is no blank, no digit and no letter. -/
theorem read?_cons_eq_none {c : Char} (hblank : isAsciiBlank c = false)
    (hchar : c.isAlphanum = false) (cs : List Char) : read? (c :: cs) = none := by
  have hdigit : c.isDigit = false := by
    rw [Char.isAlphanum, Bool.or_eq_false_iff] at hchar
    exact hchar.2
  have hletter : dropWord? "v" (c :: cs) = none := by
    refine if_neg fun hfront => ?_
    have hlower : c.toLower = 'v' := List.head_eq_of_cons_eq hfront
    rw [isAlphanum_of_toLower (by rw [hlower]; decide)] at hchar
    cases hchar
  have hepoch : epoch? (c :: cs) = some (0, c :: cs) := by
    simp [epoch?, number?, hdigit]
  have hrelease : release? (c :: cs) = none := by
    simp [release?, hdigit]
  rw [read?, List.dropWhile_cons_of_neg (by simp [hblank])]
  simp [hletter, hepoch, hrelease]

end EnvMarkers.VersionPattern
