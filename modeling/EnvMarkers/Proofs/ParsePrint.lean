import EnvMarkers.Proofs.Grammar

/-!
# Reading what is printed

The text of a printed marker is read back as the marker, however long its chains are, as long as
the parentheses in it are not nested too deeply for the reader (`Marker.parse_print`).

Each of the three stages of reading does its part: the text has the lexemes that were printed
(`Marker.layout_print`), the grammar derives these with the items (`Marker.derives_lexemes`), and
the items assemble to the marker (`Marker.itemsRead`).  White space between the lexemes plays no
part in it (`Marker.parse_of_layout`).
-/

namespace EnvMarkers

/-! ### Grouping -/

/-- A side that can be read back is an operand. -/
theorem Side.isOperand {side : Side} (h : side.Fits) : Lexeme.IsOperand side.lexeme side.item := by
  cases side with
  | name s => exact .word (Variable.canonical?_of_mem h)
  | quoted q s => exact .quoted s

theorem Comparator.isComparator (c : Comparator) : Lexeme.IsComparator c.lexemes c.text := by
  cases c with
  | within => exact .within
  | notWithin => exact .notWithin
  | _ => exact .symbol _

/-- A phrase in parentheses, where they are needed. -/
theorem Lexeme.Derives.parensIf (needed : Bool) {bound depth : Nat} {ls : List Lexeme}
    {items : List Item} (hroom : depth + needed.toNat ≤ bound)
    (h : Derives bound .marker (depth + needed.toNat) ls items) :
    Derives bound .marker depth (Lexeme.parensIf needed ls) (Item.groupIf needed items) := by
  cases needed with
  | false => exact h
  | true => exact .single (.paren hroom h)

/-- The grammar derives the lexemes of a marker, with its items, where there is room for the
parentheses. -/
theorem Marker.derives_lexemes {spell : Comparison → Spelling} {m : Marker} (h : m.Fits spell)
    {bound depth : Nat} (hroom : depth + m.parenDepth ≤ bound) :
    Lexeme.Derives bound .marker depth (m.lexemes spell) (m.items spell) := by
  induction m generalizing depth with
  | literal b => exact h.elim
  | comparison c =>
    have hc : c.Fits (spell c) := h
    exact .single (.comparison (Side.isOperand hc.left) c.comparator.isComparator
      (Side.isOperand hc.right))
  | join op l r ihl ihr =>
    rw [parenDepth] at hroom
    have hroomLeft : depth + (parensLeft op l).toNat + l.parenDepth ≤ bound := by omega
    have hroomRight : depth + (parensRight op r).toNat + r.parenDepth ≤ bound := by omega
    have hleft := (ihl h.1 hroomLeft).parensIf _ (by omega)
    have hright := (ihr h.2 hroomRight).parensIf _ (by omega)
    exact hleft.append op hright

/-- The lexemes of a marker are read as its items. -/
theorem Marker.ofLexemes_lexemes {spell : Comparison → Spelling} {m : Marker} (h : m.Fits spell)
    (hdepth : m.parenDepth ≤ maxParenDepth) :
    Item.ofLexemes (m.lexemes spell) = .ok (m.items spell) := by
  apply Item.ofLexemes_eq_ok_iff.mpr
  apply derives_lexemes h
  omega

/-! ### Assembly -/

namespace Assembly

variable {v : Item → Option Marker}

/-- Whether items that stand where a conjunction begins are read as the conjunction `m`. -/
def ReadsAsRun (v : Item → Option Marker) (items : List Item) (m : Marker) : Prop :=
  ∀ sum rest, operandChain v sum none (items ++ rest) = connectiveChain v sum m rest

/-- Whether items that stand where a chain begins are read as `m`, be it that the chain ends behind
them or that it goes on with another conjunction. -/
def ReadsAsSum (v : Item → Option Marker) (items : List Item) (m : Marker) : Prop :=
  operandChain v none none items = some m ∧
    ∀ rest, operandChain v none none (items ++ .keyword .disj :: rest) =
      operandChain v (some m) none rest

theorem ReadsAsRun.single {item : Item} {m : Marker} (h : v item = some m) :
    ReadsAsRun v [item] m := by
  intro sum rest
  rw [List.singleton_append, operandChain, h]
  rfl

/-- Another operand makes a conjunction longer. -/
theorem ReadsAsRun.conj {left : List Item} {item : Item} {l r : Marker} (hl : ReadsAsRun v left l)
    (hr : v item = some r) : ReadsAsRun v (left ++ [.keyword .conj, item]) (.join .conj l r) := by
  intro sum rest
  rw [List.append_assoc, hl sum, List.cons_append, connectiveChain, List.cons_append, operandChain,
    hr]
  rfl

/-- A conjunction is a chain. -/
theorem ReadsAsRun.sum {items : List Item} {m : Marker} (h : ReadsAsRun v items m) :
    ReadsAsSum v items m := by
  constructor
  · have hend := h none []
    rw [List.append_nil] at hend
    rw [hend]
    rfl
  · intro rest
    rw [h none]
    rfl

/-- Another conjunction makes a chain longer. -/
theorem ReadsAsSum.disj {left right : List Item} {l r : Marker} (hl : ReadsAsSum v left l)
    (hr : ReadsAsRun v right r) :
    ReadsAsSum v (left ++ .keyword .disj :: right) (.join .disj l r) := by
  constructor
  · have hend := hr (some l) []
    rw [List.append_nil] at hend
    rw [hl.2, hend]
    rfl
  · intro rest
    rw [List.append_assoc, List.cons_append, hl.2, hr (some l)]
    rfl

/-- A group of items that are read as a chain is the operand that the chain makes up. -/
theorem ReadsAsSum.operand_group {depth : Nat} {items : List Item} {m : Marker}
    (h : ReadsAsSum (operand (depth + 1)) items m) (hdepth : depth < maxGroupDepth) :
    operand depth (.group items) = some m := by
  rw [Assembly.operand_group, if_pos hdepth, accepted_ofSequence_of_chain h.1]

end Assembly

open Assembly

/-- A comparison that can be read back is the operand that its item makes up. -/
theorem Comparison.operand_item {c : Comparison} {s : Spelling} (h : c.Fits s) {depth : Nat}
    (hdepth : depth < maxGroupDepth) : operand depth (c.item s) = some (.comparison c) := by
  rw [item, operand_group, if_pos hdepth, ofSequence, if_neg (by simp), ofShort, comparison,
    Comparator.ofText?_text]
  obtain ⟨valueFirst, quote⟩ := s
  cases valueFirst with
  | false => rfl
  | true =>
    have hmem : c.comparator.isMembership = true := h.membership rfl
    simp only [left, right, Side.item, if_true, hmem]
    rfl

namespace Marker

/-- Whether the items of a marker are read as the marker where there is room for the groups in
them, as a single conjunction unless it is an `or`. -/
def ItemsRead (spell : Comparison → Spelling) (m : Marker) : Prop :=
  ∀ depth, depth + m.parenDepth < maxGroupDepth →
    ReadsAsSum (operand depth) (m.items spell) m ∧
      (m.isDisj = false → ReadsAsRun (operand depth) (m.items spell) m)

/-- With an `or` in parentheses, a marker is read as a single conjunction. -/
theorem ItemsRead.groupIf {spell : Comparison → Spelling} {m : Marker} (h : m.ItemsRead spell)
    {depth : Nat} (hdepth : depth + (m.parenDepth + m.isDisj.toNat) < maxGroupDepth) :
    ReadsAsRun (operand depth) (Item.groupIf m.isDisj (m.items spell)) m := by
  cases hdisj : m.isDisj with
  | false => exact (h depth (by omega)).2 hdisj
  | true =>
    rw [hdisj, Bool.toNat_true] at hdepth
    exact .single ((h (depth + 1) (by omega)).1.operand_group (by omega))

/-- With every join in parentheses, a marker is read as a single operand. -/
theorem ItemsRead.exists_operand {spell : Comparison → Spelling} {m : Marker}
    (h : m.ItemsRead spell) (hm : m.Fits spell) {depth : Nat}
    (hdepth : depth + (m.parenDepth + m.isJoin.toNat) < maxGroupDepth) :
    ∃ item, Item.groupIf m.isJoin (m.items spell) = [item] ∧ operand depth item = some m := by
  cases m with
  | literal b => exact hm.elim
  | comparison c => exact ⟨c.item (spell c), rfl, Comparison.operand_item hm (by omega)⟩
  | join op l r =>
    have hdepth' : depth + ((join op l r).parenDepth + 1) < maxGroupDepth := hdepth
    exact ⟨_, rfl, (h (depth + 1) (by omega)).1.operand_group (by omega)⟩

/-- The items of a marker are read as the marker. -/
theorem itemsRead {spell : Comparison → Spelling} {m : Marker} (h : m.Fits spell) :
    m.ItemsRead spell := by
  induction m with
  | literal b => exact h.elim
  | comparison c =>
    intro depth hdepth
    have hrun : ReadsAsRun (operand depth) ((Marker.comparison c).items spell) (.comparison c) :=
      .single (Comparison.operand_item h (by omega))
    exact ⟨hrun.sum, fun _ => hrun⟩
  | join op l r ihl ihr =>
    intro depth hdepth
    rw [parenDepth] at hdepth
    cases op with
    | conj =>
      -- An `or` is in parentheses on the left, and any join on the right, so that both are operands
      -- of one conjunction.
      simp only [parensLeft, parensRight] at hdepth
      have hroomLeft : depth + (l.parenDepth + l.isDisj.toNat) < maxGroupDepth := by omega
      have hroomRight : depth + (r.parenDepth + r.isJoin.toNat) < maxGroupDepth := by omega
      have hleft := (ihl h.1).groupIf hroomLeft
      obtain ⟨item, hitem, hright⟩ := (ihr h.2).exists_operand h.2 hroomRight
      have hrun : ReadsAsRun (operand depth) ((join .conj l r).items spell) (join .conj l r) := by
        rw [items, parensLeft, parensRight, hitem]
        exact hleft.conj hright
      exact ⟨hrun.sum, fun _ => hrun⟩
    | disj =>
      -- What stands on the left may be a disjunction itself, to which the right side is added.
      simp only [parensLeft, parensRight] at hdepth
      have hroomRight : depth + (r.parenDepth + r.isDisj.toNat) < maxGroupDepth := by omega
      have hleft := (ihl h.1 depth (by omega)).1
      have hright := (ihr h.2).groupIf hroomRight
      exact ⟨hleft.disj hright, nofun⟩

/-! ### Reading -/

/-- Every layout of the lexemes of a printed marker is read as the marker. -/
theorem parse_of_layout {spell : Comparison → Spelling} {m : Marker} (h : m.Fits spell)
    (hdepth : m.parenDepth ≤ maxParenDepth) {s : String}
    (hs : Lexeme.Layout (m.lexemes spell) s.toList) : (Marker.parse s).value = .ok m := by
  have hroom : 0 + m.parenDepth < maxGroupDepth := by
    rw [maxParenDepth] at hdepth
    rw [maxGroupDepth]
    omega
  refine parse_eq_ok_iff.mpr ⟨m.items spell, ?_, ?_⟩
  · exact Item.ofText_eq_ok_iff.mpr ⟨_, Lexeme.scan_of_layout hs, ofLexemes_lexemes h hdepth⟩
  · exact accepted_ofSequence_of_chain (itemsRead h 0 hroom).1.1

/-- A marker without truth values, of comparisons that can be printed, can be printed.  In each text
it may be printed as, parentheses are nested as deep as `parenDepth` says, and if that is not too
deep, the marker is read back from it. -/
theorem parse_print {m : Marker} (hm : m.Printable) (hdepth : m.parenDepth ≤ maxParenDepth) :
    m.Fits Comparison.spelling ∧
      ∀ spell, m.Fits spell →
        (∃ ls, Lexeme.scan (m.print spell).toList = .ok ls ∧ Lexeme.nesting ls = m.parenDepth) ∧
          (Marker.parse (m.print spell)).value = .ok m := by
  refine ⟨fits_spelling hm, fun spell h => ⟨?_, parse_of_layout h hdepth (layout_print h)⟩⟩
  exact ⟨m.lexemes spell, Lexeme.scan_of_layout (layout_print h), nesting_lexemes spell m⟩

/-- Both quotes, a text on the left, and joins on the right that need parentheses. -/
theorem parse_print_nested :
    let system := comparison ⟨"os_name", .equal, "it's"⟩
    let named := comparison ⟨"\"dev\"", .notWithin, "extra"⟩
    let recent := comparison ⟨"python_version", .greaterEqual, "3.8"⟩
    let m := join .disj system (join .disj (join .conj (join .disj named recent)
      (join .conj recent system)) named)
    m.print Comparison.spelling = "os_name == \"it's\" or (('\"dev\"' not in extra or " ++
        "python_version >= '3.8') and (python_version >= '3.8' and os_name == \"it's\") or " ++
        "'\"dev\"' not in extra)" ∧
      (Marker.parse (m.print Comparison.spelling)).value = .ok m := by
  intro system named recent m
  have hsystem : system.Printable := .inl ⟨by decide, .double, by decide⟩
  have hnamed : named.Printable := .inr ⟨rfl, by decide, .single, by decide⟩
  have hrecent : recent.Printable := .inl ⟨by decide, .single, by decide⟩
  have hm : m.Printable := ⟨hsystem, ⟨⟨hnamed, hrecent⟩, hrecent, hsystem⟩, hnamed⟩
  have hdepth : m.parenDepth ≤ maxParenDepth := by decide
  obtain ⟨hfits, hparse⟩ := parse_print hm hdepth
  exact ⟨by decide, (hparse _ hfits).2⟩

end Marker

end EnvMarkers
