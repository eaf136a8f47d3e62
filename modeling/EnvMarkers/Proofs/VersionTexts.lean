import EnvMarkers.Proofs.NormalForm
import EnvMarkers.Proofs.ReadNames
import EnvMarkers.Proofs.VersionAlphabet
import Mathlib.Data.List.DropRight

/-!
# Versions and the texts they are compared with

A version is compared with a text by the comparator that stands in the comparison, never by one that
the text brings along: what is left of the text without the white space at its ends has to be a
version itself (`Candidate.compare_version_eq_some_iff`).  No version begins with a symbol of an
operator, and none has a comma or a second operator in it (`VersionPattern.isVersionChar_of_read?`).

Membership tests are decided by no candidate at all, so markers of nothing else are left as they are
(`Marker.evaluate_of_memberships`).
-/

namespace EnvMarkers

/-! ### White space at the ends -/

namespace Text

/-- White space behind a text is cut off, whatever is in front of it. -/
theorem rdropWhile_append_blanks (cs : List Char) {gap : List Char}
    (hgap : ∀ c ∈ gap, isBlank c = true) :
    (cs ++ gap).rdropWhile isBlank = cs.rdropWhile isBlank := by
  have hreverse : ∀ c ∈ gap.reverse, isBlank c = true :=
    fun c hc => hgap c (List.mem_reverse.mp hc)
  rw [List.rdropWhile, List.reverse_append, List.dropWhile_append_of_pos hreverse, List.rdropWhile]

theorem trimChars_append_blanks {gap gap' : List Char} (hgap : ∀ c ∈ gap, isBlank c = true)
    (cs : List Char) (hgap' : ∀ c ∈ gap', isBlank c = true) :
    trimChars (gap ++ cs ++ gap') = trimChars cs := by
  show (List.dropWhile isBlank (gap ++ cs ++ gap')).rdropWhile isBlank =
    (cs.dropWhile isBlank).rdropWhile isBlank
  rw [List.append_assoc, List.dropWhile_append_of_pos hgap, List.dropWhile_append]
  split_ifs with hblank
  · rw [List.isEmpty_iff.mp hblank, List.dropWhile_eq_nil_iff.mpr hgap']
  · exact rdropWhile_append_blanks _ hgap'

/-- A text is what is left of it with white space at its ends. -/
theorem exists_trimChars (cs : List Char) :
    ∃ gap gap', (∀ c ∈ gap, isBlank c = true) ∧ (∀ c ∈ gap', isBlank c = true) ∧
      cs = gap ++ (trimChars cs ++ gap') := by
  refine ⟨cs.takeWhile isBlank, (cs.dropWhile isBlank).rtakeWhile isBlank, ?_, ?_, ?_⟩
  · exact fun c hc => List.all_eq_true.mp List.all_takeWhile c hc
  · exact fun c hc => List.mem_rtakeWhile_imp hc
  · have hback : trimChars cs ++ (cs.dropWhile isBlank).rtakeWhile isBlank =
        cs.dropWhile isBlank := List.rdropWhile_append_rtakeWhile
    rw [hback, List.takeWhile_append_dropWhile]

/-- Characters that are not white space are not cut off. -/
theorem mem_trim_of_not_blank {s : String} {c : Char} (hc : c ∈ s.toList)
    (hblank : isBlank c = false) : c ∈ (trim s).toList := by
  obtain ⟨gap, gap', hgap, hgap', hs⟩ := exists_trimChars s.toList
  have hnot : ∀ {ds : List Char}, (∀ d ∈ ds, isBlank d = true) → c ∉ ds := by
    intro ds hds hmem
    rw [hds c hmem] at hblank
    cases hblank
  rw [hs, List.mem_append, List.mem_append] at hc
  rw [trim, String.toList_ofList]
  exact (hc.resolve_left (hnot hgap)).resolve_right (hnot hgap')

/-- Where white space ends a word, the word is what stands in front of it. -/
theorem word_append_blanks {word gap : List Char} (hword : ∀ c ∈ word, isBlank c = false)
    (hgap : ∀ c ∈ gap, isBlank c = true) :
    (word ++ gap).takeWhile (fun c => !isBlank c) = word ∧
      (word ++ gap).dropWhile (fun c => !isBlank c) = gap ∧
      (word ++ gap).rdropWhile isBlank = word := by
  have hletters : ∀ c ∈ word, (!isBlank c) = true := fun c hc => by rw [hword c hc]; rfl
  refine ⟨?_, ?_, ?_⟩
  · rw [List.takeWhile_append_of_pos hletters]
    cases gap with
    | nil => simp
    | cons c gap => simp [hgap c List.mem_cons_self]
  · rw [List.dropWhile_append_of_pos hletters]
    cases gap with
    | nil => simp
    | cons c gap => simp [hgap c List.mem_cons_self]
  · rw [rdropWhile_append_blanks word hgap, List.rdropWhile_eq_self_iff]
    intro hne
    simp [hword _ (List.getLast_mem hne)]

end Text

/-! ### Versions between white space -/

/-- A text is read as a version, or the beginning of a release, if it is one without the white space
at its ends. -/
theorem VersionPattern.ofText?_eq_some_iff {s : String} {pattern : VersionPattern} :
    ofText? s = some pattern ↔
      (∀ c ∈ (Text.trim s).toList, Text.isBlank c = false) ∧
        read? (Text.trim s).toList = some pattern := by
  simp only [ofText?]
  set body := s.toList.dropWhile Text.isBlank
  have htrim : (Text.trim s).toList = body.rdropWhile Text.isBlank := String.toList_ofList
  rw [htrim]
  constructor
  · intro h
    split_ifs at h with hend
    have hword : ∀ c ∈ body.takeWhile (fun c => !Text.isBlank c), Text.isBlank c = false :=
      fun c hc => by simpa using List.all_eq_true.mp List.all_takeWhile c hc
    obtain ⟨-, -, hcut⟩ := Text.word_append_blanks hword (List.all_eq_true.mp hend)
    rw [List.takeWhile_append_dropWhile] at hcut
    rw [hcut]
    exact ⟨hword, h⟩
  · rintro ⟨hword, hread⟩
    have hgap : ∀ c ∈ body.rtakeWhile Text.isBlank, Text.isBlank c = true :=
      fun c hc => List.mem_rtakeWhile_imp hc
    obtain ⟨htake, hdrop, -⟩ := Text.word_append_blanks hword hgap
    rw [List.rdropWhile_append_rtakeWhile] at htake hdrop
    rw [htake, hdrop, if_pos (List.all_eq_true.mpr hgap), hread]

namespace Candidate

variable {v : Version} {comparator : Comparator} {rhs : String}

/-- What a version says about a text is what the specifier of the given comparator says about it,
and the version of this specifier is all that the text is, apart from white space at its ends. -/
theorem compare_version_eq_some_iff {b : Bool} :
    compare (.version v) comparator rhs = some b ↔
      comparator.isMembership = false ∧
        (∀ c ∈ (Text.trim rhs).toList, Text.isBlank c = false) ∧
          ∃ pattern, VersionPattern.read? (Text.trim rhs).toList = some pattern ∧
            Specifier.isAdmissible ⟨comparator, pattern⟩ = true ∧
              b = Specifier.contains ⟨comparator, pattern⟩ v := by
  cases hmembership : comparator.isMembership with
  | true => simp [compare_membership _ hmembership]
  | false =>
    show (Specifier.read? _).map _ = some b ↔ _
    rw [Specifier.read?_comparator hmembership]
    simp only [Option.map_eq_some_iff, Option.filter_eq_some_iff,
      VersionPattern.ofText?_eq_some_iff, true_and]
    constructor
    · rintro ⟨s, ⟨⟨pattern, ⟨hword, hread⟩, rfl⟩, hadmissible⟩, rfl⟩
      exact ⟨hword, pattern, hread, hadmissible, rfl⟩
    · rintro ⟨hword, pattern, hread, hadmissible, rfl⟩
      exact ⟨_, ⟨⟨pattern, ⟨hword, hread⟩, rfl⟩, hadmissible⟩, rfl⟩

/-- White space at the ends of the text makes no difference to a version. -/
theorem compare_version_congr {other : String} (h : Text.trim rhs = Text.trim other) :
    compare (.version v) comparator rhs = compare (.version v) comparator other := by
  ext b
  rw [compare_version_eq_some_iff, compare_version_eq_some_iff, h]

theorem compare_version_of_read?_eq_none
    (h : VersionPattern.read? (Text.trim rhs).toList = none) :
    compare (.version v) comparator rhs = none := by
  refine Option.eq_none_iff_forall_ne_some.mpr fun b hb => ?_
  obtain ⟨-, -, pattern, hread, -⟩ := compare_version_eq_some_iff.mp hb
  rw [h] at hread
  cases hread

/-- A text that begins with a symbol of an operator is no version. -/
theorem compare_version_of_operator {c : Char} (hhead : c ∈ (Text.trim rhs).toList.head?)
    (hc : Specifier.isOperatorChar c = true) : compare (.version v) comparator rhs = none := by
  apply compare_version_of_read?_eq_none
  obtain ⟨cs, hcs⟩ := List.head?_eq_some_iff.mp hhead
  rw [hcs]
  simp only [Specifier.isOperatorChar, Bool.or_eq_true, beq_iff_eq] at hc
  rcases hc with (((rfl | rfl) | rfl) | rfl) | rfl <;>
    exact VersionPattern.read?_cons_eq_none (by decide) (by decide) cs

/-- A text with a comma in it, or with a symbol of an operator other than the one behind an epoch,
is no version. -/
theorem compare_version_of_clause {c : Char} (hmem : c ∈ rhs.toList)
    (hc : c = ',' ∨ (Specifier.isOperatorChar c = true ∧ c ≠ '!')) :
    compare (.version v) comparator rhs = none := by
  have hkind : Text.isBlank c = false ∧ VersionPattern.isVersionChar c = false := by
    rcases hc with rfl | ⟨hoperator, hne⟩
    · decide
    · simp only [Specifier.isOperatorChar, Bool.or_eq_true, beq_iff_eq] at hoperator
      rcases hoperator with (((rfl | rfl) | rfl) | rfl) | rfl
      · decide
      · exact absurd rfl hne
      · decide
      · decide
      · decide
  apply compare_version_of_read?_eq_none
  refine Option.eq_none_iff_forall_ne_some.mpr fun pattern hread => ?_
  have hversion := VersionPattern.isVersionChar_of_read? hread c
    (Text.mem_trim_of_not_blank hmem hkind.1)
  rw [hkind.2] at hversion
  cases hversion

end Candidate

/-! ### Membership tests -/

/-- A marker of membership tests alone is left as it is by every environment. -/
theorem Marker.evaluate_of_memberships {m : Marker} (hfree : m.literalFree = true)
    (h : ∀ c ∈ m.comparisons, c.comparator.isMembership = true) (env : Environment) :
    (m.evaluate env).value = m := by
  rw [value_evaluate, reduceBy_eq_self_iff]
  exact .inr ⟨hfree, fun c hc => env.answer_membership (h c hc)⟩

namespace Candidate

/-- A version is compared with a text exactly if the comparator is no membership test and the text
is, up to white space at its ends, a version that may follow the comparator; then the answer is that
of the specifier of this comparator and this version.  So nothing is decided where the text begins
with a symbol of an operator or has another clause in it, and white space around it does not matter.
Membership tests are decided by no candidate, and a marker of nothing else is left as it is. -/
theorem compare_version_text :
    (∀ (v : Version) (comparator : Comparator) (rhs : String) (b : Bool),
      compare (.version v) comparator rhs = some b ↔
        comparator.isMembership = false ∧
          (∀ c ∈ (Text.trim rhs).toList, Text.isBlank c = false) ∧
            ∃ pattern, VersionPattern.read? (Text.trim rhs).toList = some pattern ∧
              Specifier.isAdmissible ⟨comparator, pattern⟩ = true ∧
                b = Specifier.contains ⟨comparator, pattern⟩ v) ∧
    (∀ (v : Version) (comparator : Comparator) (rhs : String),
      (∃ c ∈ (Text.trim rhs).toList.head?, Specifier.isOperatorChar c = true) →
        compare (.version v) comparator rhs = none) ∧
    (∀ (v : Version) (comparator : Comparator) (rhs : String),
      (∃ c ∈ rhs.toList, c = ',' ∨ (Specifier.isOperatorChar c = true ∧ c ≠ '!')) →
        compare (.version v) comparator rhs = none) ∧
    (∀ (v : Version) (comparator : Comparator) (before rhs behind : String),
      (∀ c ∈ before.toList, Text.isBlank c = true) → (∀ c ∈ behind.toList, Text.isBlank c = true) →
        compare (.version v) comparator (before ++ rhs ++ behind) =
          compare (.version v) comparator rhs) ∧
    (∀ (candidate : Candidate) (comparator : Comparator) (rhs : String),
      comparator.isMembership = true → candidate.compare comparator rhs = none) ∧
    ∀ (m : Marker) (env : Environment), m.literalFree = true →
      (∀ c ∈ m.comparisons, c.comparator.isMembership = true) → (m.evaluate env).value = m := by
  refine ⟨fun v comparator rhs b => compare_version_eq_some_iff, ?_, ?_, ?_, ?_, ?_⟩
  · rintro v comparator rhs ⟨c, hhead, hc⟩
    exact compare_version_of_operator hhead hc
  · rintro v comparator rhs ⟨c, hmem, hc⟩
    exact compare_version_of_clause hmem hc
  · intro v comparator before rhs behind hbefore hbehind
    apply compare_version_congr
    rw [Text.trim, String.toList_append, String.toList_append,
      Text.trimChars_append_blanks hbefore _ hbehind, Text.trim]
  · exact fun candidate comparator rhs h => candidate.compare_membership h rhs
  · exact fun m env hfree h => m.evaluate_of_memberships hfree h env

/-- An operator at the beginning, another clause, and white space around a version; and two
membership tests, of which only one has a bound name. -/
theorem compare_version_text_clauses :
    let v : Version := ⟨0, [3, 8], none, none, none, []⟩
    let env := Environment.empty.insert "extra" [.exact "dev", .version v]
    let m := Marker.join .conj (.comparison ⟨"linux", .notWithin, "sys_platform"⟩)
      (.comparison ⟨"extra", .within, "dev test"⟩)
    compare (.version v) .less " =3.9" = none ∧
      compare (.version v) .greaterEqual "3.7, <4" = none ∧
        compare (.version v) .greaterEqual ("\t" ++ "3.7" ++ " \n") = some true ∧
          (m.evaluate env).value = m := by
  intro v env m
  obtain ⟨hdecides, hoperator, hclause, hblanks, -, hmemberships⟩ := compare_version_text
  refine ⟨hoperator v .less " =3.9" ⟨'=', by decide, rfl⟩, ?_, ?_, ?_⟩
  · exact hclause v .greaterEqual "3.7, <4" ⟨',', by decide, .inl rfl⟩
  · have hread : VersionPattern.read? (Text.trim "3.7").toList =
        some ⟨⟨0, [3, 7], none, none, none, []⟩, false⟩ := by decide
    have hsolid : (Text.trim "3.7").toList.all (fun c => !Text.isBlank c) = true := by decide
    have hbefore : ∀ c ∈ "\t".toList, Text.isBlank c = true := List.all_eq_true.mp (by decide)
    have hbehind : ∀ c ∈ " \n".toList, Text.isBlank c = true := List.all_eq_true.mp (by decide)
    rw [hblanks v .greaterEqual "\t" "3.7" " \n" hbefore hbehind, hdecides]
    refine ⟨rfl, fun c hc => ?_, _, hread, rfl, by decide⟩
    simpa using List.all_eq_true.mp hsolid c hc
  · exact hmemberships m env rfl (by decide)

end Candidate

end EnvMarkers
