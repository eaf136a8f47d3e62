import EnvMarkers.Proofs.LeafOrder
import EnvMarkers.Proofs.ParsePrint
import EnvMarkers.Proofs.WellFormed

/-!
# Reading displayed items

Items are shown to a reader as a text, with values in quotes and groups in parentheses
(`Item.sequenceText`).  Shown like that, an accepted sequence is a marker text, and the marker that
is read from it is the one that the items make up (`Marker.parse_sequenceText`).

It is not read as the same items, since a comparison that is in parentheses becomes a group of its
own in the group that the parentheses are.  `Item.shown` puts these groups in.  The text of a
well-formed sequence derives the sequence with these groups (`Item.WellFormed.exists_derives`), and
they make no difference to the marker, in whatever sequence they are put
(`Assembly.accepted_shownSequence`).
-/

namespace EnvMarkers

/-! ### Items as they are read -/

namespace Item

mutual

/-- The item that is read off the text of an item: a comparison in a group is in one more. -/
def shown : Item → Item
  | group [lhs, operator text, rhs] => group [group [lhs, operator text, rhs]]
  | group items => group (shownChain items)
  | item => item

/-- The items that are read off the texts of a list of items. -/
def shownChain : List Item → List Item
  | [] => []
  | item :: rest => item.shown :: shownChain rest

end

/-- The items that are read off the text of a sequence: a bare comparison is in a group. -/
def shownSequence : List Item → List Item
  | [lhs, operator text, rhs] => [group [lhs, operator text, rhs]]
  | items => shownChain items

theorem shownChain_eq_map (items : List Item) : shownChain items = items.map shown := by
  induction items with
  | nil => rw [shownChain, List.map_nil]
  | cons item rest ih => rw [shownChain, ih, List.map_cons]

theorem shown_group (items : List Item) : (group items).shown = group (shownSequence items) := by
  unfold shownSequence
  split
  · rw [shown]
  · next h => rw [shown]; exact h

theorem shown_of_ne_group {item : Item} (h : ∀ items, item ≠ group items) : item.shown = item := by
  cases item with
  | group items => exact absurd rfl (h items)
  | _ => simp only [shown]

@[simp] theorem shown_keyword (op : Connective) : (keyword op).shown = keyword op := by
  simp only [shown]

theorem shown_eq_operator {item : Item} {s : String} :
    item.shown = operator s ↔ item = operator s := by
  cases item with
  | group items => simp [shown_group]
  | _ => simp [shown]

theorem shownSequence_of_chain {items : List Item}
    (h : ∀ lhs operator rhs, items ≠ [lhs, .operator operator, rhs]) :
    shownSequence items = items.map shown := by
  rw [shownSequence, shownChain_eq_map]
  exact h

end Item

/-! ### Texts of well-formed sequences -/

namespace Item

/-- The text of a sequence is made up of those of its items, with a space between every two. -/
theorem sequenceText_eq_intercalate (items : List Item) :
    sequenceText items = " ".intercalate (items.map text) := by
  induction items with
  | nil => rw [sequenceText, List.map_nil, String.intercalate_nil]
  | cons item rest ih =>
    cases rest with
    | nil => rw [sequenceText, List.map_singleton, String.intercalate_singleton]
    | cons next rest =>
      rw [sequenceText, ih]
      simp only [List.map_cons, String.intercalate_cons_cons]

theorem sequenceText_append {left right : List Item} (hleft : left ≠ []) (hright : right ≠ []) :
    sequenceText (left ++ right) = sequenceText left ++ " " ++ sequenceText right := by
  simp only [sequenceText_eq_intercalate, List.map_append]
  exact String.intercalate_append_of_ne_nil (by simpa using hleft) (by simpa using hright)

theorem sequenceText_join {left right : List Item} (hleft : left ≠ []) (op : Connective)
    (hright : right ≠ []) : sequenceText (left ++ .keyword op :: right) =
      sequenceText left ++ " " ++ op.text ++ " " ++ sequenceText right := by
  rw [sequenceText_append hleft (List.cons_ne_nil _ _), ← List.singleton_append,
    sequenceText_append (List.cons_ne_nil _ _) hright, sequenceText, text]
  simp only [String.append_assoc]

theorem WellFormed.ne_nil {part : Part} {items : List Item} (h : WellFormed part items) :
    items ≠ [] := by
  induction h with
  | group h => simp
  | single h ih => exact ih
  | join hleft op hright => simp
  | chain h ih => exact ih
  | comparison h => simp

/-- Whether a leaf is read back from its text, as the name of a variable or between two double
quotes. -/
def Legible : Item → Prop
  | name key => key ∈ Variable.names
  | value text => '"' ∉ text.toList
  | _ => True

/-- The phrase of the grammar of markers that the text of a part is. -/
def Part.phrase : Part → Lexeme.Phrase
  | operand => .atom
  | chain => .marker
  | sequence => .marker

/-- The items that are read off the text of a part. -/
def Part.shown : Part → List Item → List Item
  | operand, items => items.map Item.shown
  | chain, items => items.map Item.shown
  | sequence, items => shownSequence items

/-- The text of a comparison whose value is between double quotes. -/
theorem exists_derives_comparison {c : Comparison} {valueFirst : Bool}
    (h : c.Fits ⟨valueFirst, .double⟩) (depth : Nat) :
    let lhs := (c.left ⟨valueFirst, .double⟩).item
    let rhs := (c.right ⟨valueFirst, .double⟩).item
    ∃ ls, Lexeme.Layout ls (sequenceText [lhs, .operator c.comparator.text, rhs]).toList ∧
      Lexeme.Derives maxParenDepth .marker depth ls
        [.group [lhs, .operator c.comparator.text, rhs]] := by
  intro lhs rhs
  have htext : sequenceText [lhs, .operator c.comparator.text, rhs] =
      c.print ⟨valueFirst, .double⟩ := by
    cases valueFirst <;> simp [lhs, rhs, sequenceText, text, Comparison.print, Comparison.left,
      Comparison.right, Side.item, Side.print, Quote.mark, String.append_assoc]
  rw [htext]
  exact ⟨_, Comparison.layout_print h, .single (.comparison (Side.isOperand h.left)
    c.comparator.isComparator (Side.isOperand h.right))⟩

/-- The text of a well-formed sequence with legible leaves derives the items that are read off it,
where there is room for the parentheses. -/
theorem WellFormed.exists_derives {part : Part} {items : List Item} (h : WellFormed part items)
    (hleaves : ∀ leaf ∈ sequenceLeaves items, leaf.Legible) {depth : Nat}
    (hroom : depth + sequenceNesting items ≤ maxParenDepth) :
    ∃ ls, Lexeme.Layout ls (sequenceText items).toList ∧
      Lexeme.Derives maxParenDepth part.phrase depth ls (part.shown items) := by
  induction h generalizing depth with
  | @group items h ih =>
    simp only [sequenceNesting, nesting] at hroom
    simp only [sequenceLeaves, leaves, List.append_nil] at hleaves
    have hinner : depth + 1 + sequenceNesting items ≤ maxParenDepth := by omega
    obtain ⟨ls, hlayout, hderives⟩ := ih hleaves hinner
    have hparen := hlayout.paren
    refine ⟨.openParen :: (ls ++ [.closeParen]), ?_, ?_⟩
    · rw [sequenceText, text]
      simpa using hparen
    · rw [Part.shown, List.map_singleton, shown_group]
      exact .paren (by omega) hderives
  | single h ih =>
    obtain ⟨ls, hlayout, hderives⟩ := ih hleaves hroom
    exact ⟨ls, hlayout, .single hderives⟩
  | @join left right hleft op hright ihleft ihright =>
    rw [sequenceNesting_join] at hroom
    rw [sequenceLeaves_append, List.forall_mem_append, sequenceLeaves,
      List.forall_mem_append] at hleaves
    have hleftRoom : depth + sequenceNesting left ≤ maxParenDepth := by omega
    have hrightRoom : depth + sequenceNesting right ≤ maxParenDepth := by omega
    obtain ⟨ls, hlayout, hderives⟩ := ihleft hleaves.1 hleftRoom
    obtain ⟨ms, hlayout', hderives'⟩ := ihright hleaves.2.2 hrightRoom
    have hjoin := hlayout.append_space (op.layout_text.append_space hlayout')
    refine ⟨ls ++ ([.word op.text] ++ ms), ?_, ?_⟩
    · rw [sequenceText_join hleft.ne_nil op hright.ne_nil]
      simpa using hjoin
    · rw [Part.shown, List.map_append, List.map_cons, shown_keyword]
      exact (Lexeme.Derives.single hderives).append op hderives'
  | @chain items h ih =>
    obtain ⟨ls, hlayout, hderives⟩ := ih hleaves hroom
    -- A chain is not a bare comparison, since its text does not derive one.
    have hchain : ∀ lhs operator rhs, items ≠ [lhs, .operator operator, rhs] := by
      rintro lhs operator rhs rfl
      exact hderives.ne_comparison lhs.shown operator rhs.shown (by simp [Part.shown, shown])
    refine ⟨ls, hlayout, ?_⟩
    rw [Part.shown, shownSequence_of_chain hchain]
    exact hderives
  | @comparison t h =>
    cases h with
    | nameFirst key c text =>
      have hfits : Comparison.Fits ⟨key, c, text⟩ ⟨false, .double⟩ :=
        ⟨hleaves (.name key) (by simp [sequenceLeaves, leaves]),
          hleaves (.value text) (by simp [sequenceLeaves, leaves]),
          fun hfirst => absurd hfirst Bool.false_ne_true⟩
      exact exists_derives_comparison hfits depth
    | @valueFirst text c hmembership key =>
      have hfits : Comparison.Fits ⟨text, c, key⟩ ⟨true, .double⟩ :=
        ⟨hleaves (.value text) (by simp [sequenceLeaves, leaves]),
          hleaves (.name key) (by simp [sequenceLeaves, leaves]), fun _ => hmembership⟩
      exact exists_derives_comparison hfits depth

end Item

/-! ### Assembly -/

namespace Assembly

open Item

/-- A chain makes up the same marker as it is shown if each of its operands does. -/
theorem operandChain_map_shown {v : Item → Option Marker} {items : List Item}
    (h : ∀ item ∈ items, v item.shown = v item) :
    (∀ sum run, operandChain v sum run (items.map shown) = operandChain v sum run items) ∧
      ∀ sum run, connectiveChain v sum run (items.map shown) =
        connectiveChain v sum run items := by
  induction items with
  | nil => exact ⟨fun _ _ => rfl, fun _ _ => rfl⟩
  | cons item rest ih =>
    rw [List.forall_mem_cons] at h
    obtain ⟨ihOperand, ihConnective⟩ := ih h.2
    constructor
    · intro sum run
      rw [List.map_cons, operandChain, operandChain, h.1]
      simp only [ihConnective]
    · intro sum run
      cases item with
      | keyword op =>
        rw [List.map_cons, shown_keyword]
        cases op with
        | conj => exact ihOperand sum (some run)
        | disj => exact ihOperand _ none
      | group items => simp only [List.map_cons, shown_group, connectiveChain]
      | _ => simp only [List.map_cons, shown, connectiveChain]

/-- A sequence makes up the same marker as it is shown if each of its operands does, where there is
room for another group. -/
theorem accepted_shownSequence_of_operands {depth : Nat} (hdepth : depth < maxGroupDepth)
    {items : List Item} (h : ∀ item ∈ items, operand depth item.shown = operand depth item) :
    accepted (ofSequence depth (shownSequence items)) = accepted (ofSequence depth items) := by
  rcases bare_or_chain items with ⟨lhs, operator, rhs, rfl⟩ | hchain
  · rw [shownSequence, ofSequence, if_neg (by simp), ofShort, ← operand, operand_group,
      if_pos hdepth, accepted_ofSequence_comparison, accepted_ofSequence_comparison]
  · have hshown : ∀ lhs operator rhs, items.map shown ≠ [lhs, .operator operator, rhs] := by
      intro lhs operator rhs heq
      simp only [List.map_eq_cons_iff, List.map_eq_nil_iff] at heq
      obtain ⟨left, _, rfl, -, second, _, rfl, hsecond, right, _, rfl, -, rfl⟩ := heq
      rw [shown_eq_operator] at hsecond
      exact hchain left operator right (by rw [hsecond])
    rw [shownSequence_of_chain hchain, accepted_ofSequence depth hchain,
      accepted_ofSequence depth hshown]
    exact (operandChain_map_shown h).1 none none

/-- An item makes up the same operand as it is shown, where there is room for another group. -/
theorem operand_shown {bound : Nat} (hbound : bound < maxGroupDepth) {depth : Nat} {item : Item}
    (h : depth + item.nesting ≤ bound) : operand depth item.shown = operand depth item := by
  induction item using Item.groupInduction generalizing depth with
  | group items ih =>
    rw [nesting] at h
    have hroom : ∀ item ∈ items, depth + 1 + item.nesting ≤ bound :=
      (add_sequenceNesting_le_iff (by omega) items).mp (by omega)
    rw [shown_group, operand_group, operand_group]
    congr 1
    exact accepted_shownSequence_of_operands (by omega) fun item hitem =>
      ih item hitem (hroom item hitem)
  | other item hother => rw [shown_of_ne_group hother]

/-- A sequence makes up the same marker as it is shown, where there is room for another group. -/
theorem accepted_shownSequence {bound : Nat} (hbound : bound < maxGroupDepth) {depth : Nat}
    {items : List Item} (h : depth + sequenceNesting items ≤ bound) :
    accepted (ofSequence depth (shownSequence items)) = accepted (ofSequence depth items) := by
  have hroom : ∀ item ∈ items, depth + item.nesting ≤ bound :=
    (add_sequenceNesting_le_iff (by omega) items).mp h
  exact accepted_shownSequence_of_operands (by omega) fun item hitem =>
    operand_shown hbound (hroom item hitem)

end Assembly

/-! ### Reading -/

namespace Marker

open Item

/-- The text as which an accepted sequence is shown is read as the marker that the sequence makes
up, if every name in it is that of a variable, no value in it has a double quote, and its groups are
not nested more deeply than parentheses may be. -/
theorem parse_sequenceText {items : List Item} {m : Marker} (h : (ofItems items).value = .ok m)
    (hnames : ∀ key, .name key ∈ sequenceLeaves items → key ∈ Variable.names)
    (hvalues : ∀ text, .value text ∈ sequenceLeaves items → '"' ∉ text.toList)
    (hnesting : sequenceNesting items ≤ maxParenDepth) :
    (Marker.parse (sequenceText items)).value = .ok m := by
  have haccepted : Assembly.accepted (Assembly.ofSequence 0 items) = some m :=
    Assembly.accepted_eq_some.mpr h
  have hleaves : ∀ leaf ∈ sequenceLeaves items, leaf.Legible := by
    intro leaf hleaf
    cases leaf with
    | name key => exact hnames key hleaf
    | value text => exact hvalues text hleaf
    | _ => trivial
  have hroom : 0 + sequenceNesting items ≤ maxParenDepth := by omega
  have hbound : maxParenDepth < maxGroupDepth := by decide
  have hderives := (Assembly.wellFormed_of_accepted haccepted).exists_derives hleaves hroom
  refine parse_eq_ok_iff.mpr ⟨shownSequence items, ofText_eq_ok_iff_derives.mpr hderives, ?_⟩
  rw [Assembly.accepted_shownSequence hbound hroom, haccepted]

/-- A comparison on its own in parentheses, one in two pairs of them, and a value that looks like
more items. -/
theorem parse_sequenceText_nested :
    let items := [.group [.name "extra", .operator "==", .value "it's\n' or (\t"], .keyword .disj,
      .group [.group [.value "nt", .operator "not in", .name "os_name"]], .keyword .conj,
        .group [.name "python_version", .operator "<", .value "3"]]
    let m := join .disj (comparison ⟨"extra", .equal, "it's\n' or (\t"⟩) (join .conj
      (comparison ⟨"nt", .notWithin, "os_name"⟩) (comparison ⟨"python_version", .less, "3"⟩))
    (ofItems items).value = .ok m ∧
      sequenceText items = "(extra == \"it's\n' or (\t\") or ((\"nt\" not in os_name)) and " ++
        "(python_version < \"3\")" ∧
      (Marker.parse (sequenceText items)).value = .ok m := by
  intro items m
  have haccepted : (ofItems items).value = .ok m := by
    refine Assembly.accepted_eq_some.mp ?_
    simp (disch := simp) only [items, Assembly.accepted_ofSequence,
      Assembly.accepted_ofSequence_comparison, Assembly.operand_group, Assembly.operandChain,
      Assembly.connectiveChain, maxGroupDepth]
    rfl
  have hnames : ∀ key, .name key ∈ sequenceLeaves items → key ∈ Variable.names := by
    simp [items, sequenceLeaves, leaves, Variable.names]
  have hvalues : ∀ text, .value text ∈ sequenceLeaves items → '"' ∉ text.toList := by
    simp [items, sequenceLeaves, leaves]
  have hnesting : sequenceNesting items ≤ maxParenDepth := by
    simp [items, sequenceNesting, nesting, maxParenDepth]
  refine ⟨haccepted, ?_, parse_sequenceText haccepted hnames hvalues hnesting⟩
  simp [items, sequenceText, Item.text, Connective.text]

end Marker

end EnvMarkers
