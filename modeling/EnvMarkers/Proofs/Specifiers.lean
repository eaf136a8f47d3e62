import EnvMarkers.Environment.Candidate
import Mathlib.Tactic.Set

/-!
# Specifiers from a comparator and a text

A version is compared through a specifier, which is the comparator and the text on the right written
one behind the other.  The comparator ends at the blank behind it, so the specifier has exactly this
comparator, whatever the text begins with (`Specifier.read?_comparator`).

The words of the membership tests are made of letters, so no comparator is read where one of them
stands (`Specifier.read?_membership`).  Texts and patterns leave membership open too, and so no
candidate of any kind decides it (`Candidate.compare_membership`).
-/

namespace EnvMarkers

/-- The version, or the beginning of a release, that a text has between blanks. -/
def VersionPattern.ofText? (s : String) : Option VersionPattern :=
  let cs := s.toList.dropWhile Text.isBlank
  if (cs.dropWhile fun c => !Text.isBlank c).all Text.isBlank then
    read? (cs.takeWhile fun c => !Text.isBlank c)
  else none

namespace Specifier

theorem isOperatorChar_of_mem_text {comparator : Comparator}
    (h : comparator.isMembership = false) :
    ∀ c ∈ comparator.text.toList, isOperatorChar c = true := by
  have hall : ∀ comparator : Comparator, comparator.isMembership = false →
      comparator.text.toList.all isOperatorChar = true := by
    intro comparator
    cases comparator <;> decide
  exact List.all_eq_true.mp (hall comparator h)

/-- A comparator and a text behind it are a specifier if the text is a version, or the beginning of
a release, with which versions can be compared in this way. -/
theorem read?_comparator {comparator : Comparator} (h : comparator.isMembership = false)
    (rhs : String) :
    read? (comparator.text ++ " " ++ rhs).toList =
      ((VersionPattern.ofText? rhs).map (mk comparator)).filter isAdmissible := by
  set symbol := comparator.text.toList with hsymbol
  have hall : ∀ c ∈ symbol, isOperatorChar c = true := isOperatorChar_of_mem_text h
  have htext : (comparator.text ++ " " ++ rhs).toList = symbol ++ ' ' :: rhs.toList := by
    rw [hsymbol]
    simp
  have hfront : (symbol ++ ' ' :: rhs.toList).dropWhile Text.isBlank =
      symbol ++ ' ' :: rhs.toList := by
    rw [hsymbol]
    cases comparator <;> rfl
  -- The blank belongs to no comparator, so the run of symbols stops at it.
  have htake : (symbol ++ ' ' :: rhs.toList).takeWhile isOperatorChar = symbol := by
    rw [List.takeWhile_append_of_pos hall, List.takeWhile_cons_of_neg (by decide),
      List.append_nil]
  have hdrop : ((symbol ++ ' ' :: rhs.toList).dropWhile isOperatorChar).dropWhile Text.isBlank =
      rhs.toList.dropWhile Text.isBlank := by
    rw [List.dropWhile_append_of_pos hall, List.dropWhile_cons_of_neg (by decide),
      List.dropWhile_cons_of_pos (by decide)]
  rw [htext, read?, hfront, htake, hdrop, hsymbol, String.ofList_toList, Comparator.ofText?_text]
  simp only [VersionPattern.ofText?, Option.bind_eq_bind, Option.bind_some]
  cases ((rhs.toList.dropWhile Text.isBlank).dropWhile fun c => !Text.isBlank c).all
      Text.isBlank with
  | false => simp
  | true =>
    simp only [Bool.and_true, if_true]
    cases VersionPattern.read? _ with
    | none => rfl
    | some pattern => simp [Option.filter]

/-- Every version or beginning of a release can be compared for equality, and for its negation. -/
theorem read?_equality {comparator : Comparator}
    (h : comparator = .equal ∨ comparator = .notEqual) (rhs : String) :
    read? (comparator.text ++ " " ++ rhs).toList =
      (VersionPattern.ofText? rhs).map (mk comparator) := by
  have hadmissible : ∀ pattern, isAdmissible ⟨comparator, pattern⟩ = true := by
    rcases h with rfl | rfl <;> exact fun _ => rfl
  have hmembership : comparator.isMembership = false := by
    rcases h with rfl | rfl <;> rfl
  rw [read?_comparator hmembership]
  cases VersionPattern.ofText? rhs with
  | none => rfl
  | some pattern => simp [Option.filter, hadmissible]

theorem contains_notEqual (pattern : VersionPattern) (v : Version) :
    contains ⟨.notEqual, pattern⟩ v = !contains ⟨.equal, pattern⟩ v :=
  rfl

/-- A membership test and a text behind it are no specifier. -/
theorem read?_membership {comparator : Comparator} (h : comparator.isMembership = true)
    (rhs : String) : read? (comparator.text ++ " " ++ rhs).toList = none := by
  have hletter : ∃ c cs, comparator.text.toList = c :: cs ∧
      Text.isBlank c = false ∧ isOperatorChar c = false := by
    cases comparator with
    | within => exact ⟨'i', ['n'], by decide⟩
    | notWithin => exact ⟨'n', ['o', 't', ' ', 'i', 'n'], by decide⟩
    | _ => cases h
  obtain ⟨c, cs, hsymbol, hblank, hoperator⟩ := hletter
  have htext : (comparator.text ++ " " ++ rhs).toList = c :: (cs ++ ' ' :: rhs.toList) := by
    simp [hsymbol]
  -- No operator symbol stands in front, and the empty text is no comparator.
  rw [htext, read?, List.dropWhile_cons_of_neg (by simp [hblank]),
    List.takeWhile_cons_of_neg (by simp [hoperator])]
  rfl

end Specifier

/-- No candidate decides a membership test. -/
theorem Candidate.compare_membership (candidate : Candidate) {comparator : Comparator}
    (h : comparator.isMembership = true) (rhs : String) :
    candidate.compare comparator rhs = none := by
  have hopen : ∀ equal, decideEquality comparator equal = none := by
    intro equal
    cases comparator with
    | equal => cases h
    | notEqual => cases h
    | _ => rfl
  cases candidate with
  | exact s => exact hopen (s == rhs)
  | pattern p => exact hopen (p.isMatch rhs)
  | version v =>
    show (Specifier.read? _).map _ = none
    rw [Specifier.read?_membership h, Option.map_none]

end EnvMarkers
