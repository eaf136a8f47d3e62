import EnvMarkers.Proofs.NormalForm
import EnvMarkers.Proofs.OperandKinds

/-!
# The order of leaves

The text of a marker is that of the items that it is made of, one after another from left to right,
without the quotes around values and the parentheses around groups (`Marker.text_of_ofItems`).  So
an accepted sequence is put together without losing, repeating or moving any item.

A text is taken apart into its words for that, where a value counts as one word whatever is in it
(`Marker.text_eq_intercalate`); along a chain the words are kept in order, like everything that is
read off markers from left to right (`Assembly.operandChain_flatMap`).
-/

namespace EnvMarkers

/-! ### Leaves -/

namespace Item

mutual

/-- The items in an item that are no groups, from left to right. -/
def leaves : Item → List Item
  | group items => sequenceLeaves items
  | item => [item]

/-- The items in a list of items that are no groups, from left to right. -/
def sequenceLeaves : List Item → List Item
  | [] => []
  | item :: rest => item.leaves ++ sequenceLeaves rest

end

theorem sequenceLeaves_eq_flatMap (items : List Item) :
    sequenceLeaves items = items.flatMap leaves := by
  induction items with
  | nil => rw [sequenceLeaves, List.flatMap_nil]
  | cons item rest ih => rw [sequenceLeaves, ih, List.flatMap_cons]

theorem sequenceLeaves_append (left right : List Item) :
    sequenceLeaves (left ++ right) = sequenceLeaves left ++ sequenceLeaves right := by
  simp only [sequenceLeaves_eq_flatMap, List.flatMap_append]

/-- The text of a leaf, without the quotes around a value. -/
def bareText : Item → String
  | value s => s
  | item => item.text

/-- The bare texts of the leaves of an item. -/
def words (item : Item) : List String :=
  item.leaves.map bareText

@[simp] theorem words_name (s : String) : (name s).words = [s] := by
  simp [words, leaves, bareText, text]

@[simp] theorem words_value (s : String) : (value s).words = [s] := by
  simp [words, leaves, bareText]

@[simp] theorem words_operator (s : String) : (operator s).words = [s] := by
  simp [words, leaves, bareText, text]

@[simp] theorem words_keyword (op : Connective) : (keyword op).words = [op.text] := by
  simp [words, leaves, bareText, text]

theorem words_group (items : List Item) : (group items).words = items.flatMap words := by
  rw [words, leaves, sequenceLeaves_eq_flatMap, List.map_flatMap]
  rfl

end Item

namespace Marker

/-! ### Words -/

/-- The words of the text of a marker, where each side of a comparison is one word. -/
def words : Marker → List String
  | literal b => [truthText b]
  | comparison c => [c.lhs, c.comparator.text, c.rhs]
  | join op l r => l.words ++ [op.text] ++ r.words

theorem words_ne_nil (m : Marker) : m.words ≠ [] := by
  cases m <;> simp [words]

/-- The text of a marker is made up of its words, with a space between every two. -/
theorem text_eq_intercalate (m : Marker) : m.text = " ".intercalate m.words := by
  induction m with
  | literal b => rw [text_literal, words, String.intercalate_singleton]
  | comparison c =>
    rw [text_comparison, Comparison.text, words, String.intercalate_cons_cons,
      String.intercalate_cons_cons, String.intercalate_singleton]
    simp only [String.append_assoc]
  | join op l r ihl ihr =>
    have hleft : l.words ++ [op.text] ≠ [] := by simp
    rw [text_join, ihl, ihr, words, String.intercalate_append_of_ne_nil hleft r.words_ne_nil,
      String.intercalate_append_of_ne_nil l.words_ne_nil (by simp), String.intercalate_singleton]

/-! ### Truth values -/

/-- The truth values in a marker, from left to right. -/
def literals : Marker → List Bool
  | literal b => [b]
  | comparison _ => []
  | join _ l r => l.literals ++ r.literals

theorem literalFree_iff (m : Marker) : m.literalFree = true ↔ m.literals = [] := by
  induction m with
  | literal b => simp [literalFree, literals]
  | comparison c => simp [literalFree, literals]
  | join op l r ihl ihr => simp [literalFree, literals, ihl, ihr]

end Marker

/-! ### Accepted sequences -/

namespace Assembly

open Item

variable {depth : Nat} {items : List Item} {m : Marker}

/-- An accepted sequence has the words of the marker it makes up. -/
theorem words_of_accepted (h : accepted (ofSequence depth items) = some m) :
    m.words = (group items).words := by
  refine acceptedInduction (P := fun item m => m.words = item.words) ?_ ?_ h
  · intro lhs operator rhs c hc
    rw [words_group, Marker.words, Comparison.ofItems?_operator hc]
    rcases Comparison.ofItems?_sides hc with ⟨rfl, rfl⟩ | ⟨-, rfl, rfl⟩
    · simp
    · simp
  · intro v items m _ hitems h
    rw [words_group]
    exact (operandChain_flatMap (fun _ _ _ => rfl) words_keyword hitems m).1 none none h

/-- An accepted sequence makes up a marker without truth values. -/
theorem literalFree_of_accepted (h : accepted (ofSequence depth items) = some m) :
    m.literalFree = true := by
  rw [m.literalFree_iff]
  refine acceptedInduction (P := fun _ m => m.literals = []) (fun _ _ _ _ _ => rfl) ?_ h
  intro v items m _ hitems h
  -- No item adds anything to the truth values that are read off.
  have hjoin : ∀ op l r, (Marker.join op l r).literals = l.literals ++ [] ++ r.literals := by
    simp [Marker.literals]
  have hflat : m.literals = items.flatMap fun _ => [] :=
    (operandChain_flatMap hjoin (fun _ => rfl) hitems m).1 none none h
  rw [hflat, List.flatMap_eq_nil_iff]
  exact fun _ _ => rfl

end Assembly

namespace Marker

open Item

/-- The text of a marker is that of the leaves of the items it is made of, from left to right and
without quotes.  It has no truth values in it, and as many comparisons as are given in the items. -/
theorem text_of_ofItems {items : List Item} {m : Marker} (h : (ofItems items).value = .ok m) :
    m.text = " ".intercalate ((sequenceLeaves items).map bareText) ∧
      m.literalFree = true ∧ m.comparisons.length = (sequenceTriples items).length := by
  have haccepted : Assembly.accepted (Assembly.ofSequence 0 items) = some m :=
    Assembly.accepted_eq_some.mpr h
  refine ⟨?_, Assembly.literalFree_of_accepted haccepted, ?_⟩
  · rw [text_eq_intercalate, Assembly.words_of_accepted haccepted, Item.words, leaves]
  · have hlength := congrArg List.length (Assembly.comparisons_of_accepted haccepted)
    rw [List.length_map, List.length_map] at hlength
    exact hlength.symm

/-- Both kinds of connectives, groups in groups, and a value that looks like more items. -/
theorem text_of_ofItems_nested :
    let items := [.group [.name "extra", .operator "==", .value "a and (b"], .keyword .disj,
      .group [.group [.value "nt", .operator "in", .name "os_name"]], .keyword .conj,
        .group [.name "python_version", .operator "<", .value "3"]]
    let m := join .disj (comparison ⟨"extra", .equal, "a and (b"⟩) (join .conj
      (comparison ⟨"nt", .within, "os_name"⟩) (comparison ⟨"python_version", .less, "3"⟩))
    (ofItems items).value = .ok m ∧ (sequenceTriples items).length = 3 ∧
      m.text = "extra == a and (b or nt in os_name and python_version < 3" := by
  intro items m
  have haccepted : (ofItems items).value = .ok m := by
    refine Assembly.accepted_eq_some.mp ?_
    simp (disch := simp) only [items, Assembly.accepted_ofSequence,
      Assembly.accepted_ofSequence_comparison, Assembly.operand_group, Assembly.operandChain,
      Assembly.connectiveChain, maxGroupDepth]
    rfl
  obtain ⟨htext, -, hcount⟩ := text_of_ofItems haccepted
  refine ⟨haccepted, hcount.symm, htext.trans ?_⟩
  simp [items, sequenceLeaves, leaves, bareText, Item.text, Connective.text]

end Marker

end EnvMarkers
