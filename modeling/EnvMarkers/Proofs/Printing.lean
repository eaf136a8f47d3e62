import EnvMarkers.Marker.Basic
import EnvMarkers.Marker.Item
import EnvMarkers.Proofs.Layout

/-!
# Printing markers

A marker is printed so that it can be read back: variables as they are, texts between quotes that
do not occur in them, and parentheses only where the precedence of the connectives and their
grouping to the left do not already say how the sides belong together (`Marker.print`).  Not every
marker can be printed like that (`Marker.Printable`), and where there is a choice of quotes, or of
the side on which the variable stands, it is made by a `Spelling`.

Beside the text stand the lexemes (`Marker.lexemes`) and the items (`Marker.items`) that are meant
to be read off it.  The text is a layout of the lexemes (`Marker.layout_print`), and their
parentheses are nested as deep as `Marker.parenDepth` says (`Marker.nesting_lexemes`).
-/

namespace EnvMarkers

/-! ### Sides of a comparison -/

/-- The character on both sides of a quoted text. -/
inductive Quote where
  /-- `'` -/
  | single
  /-- `"` -/
  | double
  deriving DecidableEq, Repr, Inhabited

/-- The character that a quote is. -/
def Quote.mark : Quote → Char
  | single => '\''
  | double => '"'

/-- A quote that does not occur in a text, if there is one. -/
def Quote.around (text : String) : Quote :=
  if '\'' ∈ text.toList then double else single

theorem Quote.mark_around_not_mem {text : String} (h : ∃ q : Quote, q.mark ∉ text.toList) :
    (Quote.around text).mark ∉ text.toList := by
  unfold Quote.around
  by_cases hsingle : '\'' ∈ text.toList
  · rw [if_pos hsingle]
    obtain ⟨q, hq⟩ := h
    cases q with
    | single => exact absurd hsingle hq
    | double => exact hq
  · rw [if_neg hsingle]
    exact hsingle

/-- What is written on one side of a comparison. -/
inductive Side where
  /-- The name of a variable, as it is. -/
  | name (text : String)
  /-- A text between two quotes. -/
  | quoted (quote : Quote) (text : String)
  deriving DecidableEq, Repr, Inhabited

namespace Side

/-- The text of a side. -/
def print : Side → String
  | name s => s
  | quoted q s => String.singleton q.mark ++ s ++ String.singleton q.mark

/-- The lexeme that the text of a side is read as. -/
def lexeme : Side → Lexeme
  | name s => .word s
  | quoted _ s => .quoted s

/-- The item that a side is read as. -/
def item : Side → Item
  | name s => .name s
  | quoted _ s => .value s

/-- Whether a side is written so that it can be read back. -/
def Fits : Side → Prop
  | name s => s ∈ Variable.names
  | quoted q s => q.mark ∉ s.toList

theorem spells {side : Side} (h : side.Fits) : Lexeme.Spells side.lexeme side.print.toList := by
  cases side with
  | name s =>
    have hword : ∀ name ∈ Variable.names,
        name ≠ "" ∧ name.toList.all Lexeme.isWordChar = true := by
      decide
    exact .word (hword s h).1 (List.all_eq_true.mp (hword s h).2)
  | quoted q s =>
    -- The text is between two equal quotes, neither of which occurs in it.
    have hmark : q.mark = '\'' ∨ q.mark = '"' := by
      cases q with
      | single => exact .inl rfl
      | double => exact .inr rfl
    have hprint : (quoted q s).print.toList = q.mark :: s.toList ++ [q.mark] := by
      simp [print]
    rw [hprint]
    exact .quoted hmark h

end Side

/-! ### Comparisons -/

/-- How a comparison is written, where it can be written in more than one way. -/
structure Spelling where
  /-- Whether the text stands on the left and the variable on the right. -/
  valueFirst : Bool
  /-- The quote around the text. -/
  quote : Quote
  deriving DecidableEq, Repr, Inhabited

/-- The lexemes of a comparator, of which `not in` has two. -/
def Comparator.lexemes : Comparator → List Lexeme
  | within => [.word "in"]
  | notWithin => [.word "not", .word "in"]
  | c => [.symbol c.text]

theorem Comparator.layout_text (c : Comparator) : Lexeme.Layout c.lexemes c.text.toList := by
  have hin : Lexeme.Layout [.word "in"] "in".toList := .word (by decide) (by decide)
  have hnot : Lexeme.Layout [.word "not"] "not".toList := .word (by decide) (by decide)
  cases c with
  | within => exact hin
  | notWithin => exact hnot.append_space hin
  | _ => exact .single (.symbol (by decide))

theorem Connective.layout_text (op : Connective) :
    Lexeme.Layout [.word op.text] op.text.toList := by
  cases op with
  | conj => exact .word (by decide) (by decide)
  | disj => exact .word (by decide) (by decide)

namespace Comparison

/-- One side of a comparison as it is written. -/
def left (c : Comparison) (s : Spelling) : Side :=
  if s.valueFirst then .quoted s.quote c.lhs else .name c.lhs

/-- The other side of a comparison as it is written. -/
def right (c : Comparison) (s : Spelling) : Side :=
  if s.valueFirst then .name c.rhs else .quoted s.quote c.rhs

/-- The text of a comparison: its sides around its comparator. -/
def print (c : Comparison) (s : Spelling) : String :=
  (c.left s).print ++ " " ++ c.comparator.text ++ " " ++ (c.right s).print

/-- The lexemes of a comparison: those of its sides around those of its comparator. -/
def lexemes (c : Comparison) (s : Spelling) : List Lexeme :=
  [(c.left s).lexeme] ++ (c.comparator.lexemes ++ [(c.right s).lexeme])

/-- The item of a comparison: a group of its sides and its comparator. -/
def item (c : Comparison) (s : Spelling) : Item :=
  .group [(c.left s).item, .operator c.comparator.text, (c.right s).item]

/-- Whether a comparison is of a variable with a text, in this order unless it is a membership
test, where the text lacks one of the quotes. -/
def Printable (c : Comparison) : Prop :=
  (c.lhs ∈ Variable.names ∧ ∃ q : Quote, q.mark ∉ c.rhs.toList) ∨
    (c.comparator.isMembership = true ∧ c.rhs ∈ Variable.names ∧ ∃ q : Quote, q.mark ∉ c.lhs.toList)

/-- Whether a comparison can be read back in the given spelling. -/
structure Fits (c : Comparison) (s : Spelling) : Prop where
  /-- The left side can be read back. -/
  left : (c.left s).Fits
  /-- The right side can be read back. -/
  right : (c.right s).Fits
  /-- Only membership tests have the variable on the right. -/
  membership : s.valueFirst = true → c.comparator.isMembership = true

/-- A spelling of a comparison, which fits if any does. -/
def spelling (c : Comparison) : Spelling :=
  if c.lhs ∈ Variable.names then ⟨false, .around c.rhs⟩ else ⟨true, .around c.lhs⟩

theorem fits_spelling {c : Comparison} (h : c.Printable) : c.Fits c.spelling := by
  unfold spelling
  by_cases hlhs : c.lhs ∈ Variable.names
  · have hquote : ∃ q : Quote, q.mark ∉ c.rhs.toList := by
      rcases h with ⟨-, hq⟩ | ⟨-, hrhs, -⟩
      · exact hq
      · -- Both sides are variables, and those have no quotes in their names.
        have hnames : ∀ name ∈ Variable.names, Quote.single.mark ∉ name.toList := by decide
        exact ⟨.single, hnames c.rhs hrhs⟩
    rw [if_pos hlhs]
    exact ⟨hlhs, Quote.mark_around_not_mem hquote, nofun⟩
  · rw [if_neg hlhs]
    rcases h with ⟨hname, -⟩ | ⟨hmem, hrhs, hquote⟩
    · exact absurd hname hlhs
    · exact ⟨Quote.mark_around_not_mem hquote, hrhs, fun _ => hmem⟩

theorem layout_print {c : Comparison} {s : Spelling} (h : c.Fits s) :
    Lexeme.Layout (c.lexemes s) (c.print s).toList := by
  have hlayout := (Lexeme.Layout.single (Side.spells h.left)).append_space
    (c.comparator.layout_text.append_space (.single (Side.spells h.right)))
  have hprint : (c.print s).toList = (c.left s).print.toList ++
      ' ' :: (c.comparator.text.toList ++ ' ' :: (c.right s).print.toList) := by
    simp [print]
  rw [hprint]
  exact hlayout

theorem paren_not_mem_lexemes (c : Comparison) (s : Spelling) :
    Lexeme.openParen ∉ c.lexemes s ∧ Lexeme.closeParen ∉ c.lexemes s := by
  have hside : ∀ side : Side, side.lexeme ≠ .openParen ∧ side.lexeme ≠ .closeParen := by
    intro side
    cases side <;> exact ⟨nofun, nofun⟩
  have hcomparator :
      Lexeme.openParen ∉ c.comparator.lexemes ∧ Lexeme.closeParen ∉ c.comparator.lexemes := by
    cases c.comparator <;> decide
  simp [lexemes, hcomparator, (hside _).1.symm, (hside _).2.symm]

end Comparison

/-! ### Parentheses -/

/-- A text in parentheses, where they are needed. -/
def parensIf (needed : Bool) (s : String) : String :=
  if needed then "(" ++ s ++ ")" else s

/-- Lexemes in parentheses, where they are needed. -/
def Lexeme.parensIf (needed : Bool) (ls : List Lexeme) : List Lexeme :=
  if needed then .openParen :: (ls ++ [.closeParen]) else ls

/-- Items in a group, where it is needed. -/
def Item.groupIf (needed : Bool) (items : List Item) : List Item :=
  if needed then [.group items] else items

theorem Lexeme.Layout.parensIf (needed : Bool) {ls : List Lexeme} {s : String}
    (h : Layout ls s.toList) :
    Layout (Lexeme.parensIf needed ls) (EnvMarkers.parensIf needed s).toList := by
  cases needed with
  | false => exact h
  | true =>
    have hprint : (EnvMarkers.parensIf true s).toList = '(' :: (s.toList ++ [')']) := by
      simp [EnvMarkers.parensIf]
    rw [hprint]
    exact h.paren

namespace Lexeme

/-- Counts the parentheses that are open behind a lexeme, and the most that have been so far. -/
def countParens : Nat × Nat → Lexeme → Nat × Nat
  | (opened, deepest), openParen => (opened + 1, max deepest (opened + 1))
  | (opened, deepest), closeParen => (opened - 1, deepest)
  | counts, _ => counts

/-- How many parentheses of a sequence are open at once. -/
def nesting (ls : List Lexeme) : Nat :=
  (ls.foldl countParens (0, 0)).2

/-- Whether all parentheses in a sequence are matched, and `depth` of them are open at once. -/
def Nests (depth : Nat) (ls : List Lexeme) : Prop :=
  ∀ opened deepest, opened ≤ deepest →
    ls.foldl countParens (opened, deepest) = (opened, max deepest (opened + depth))

theorem Nests.nesting_eq {depth : Nat} {ls : List Lexeme} (h : Nests depth ls) :
    nesting ls = depth := by
  rw [nesting, h 0 0 (Nat.le_refl 0)]
  omega

theorem Nests.append {depth depth' : Nat} {ls ms : List Lexeme} (hls : Nests depth ls)
    (hms : Nests depth' ms) : Nests (max depth depth') (ls ++ ms) := by
  intro opened deepest h
  have hroom : opened ≤ max deepest (opened + depth) := by omega
  rw [List.foldl_append, hls opened deepest h, hms opened _ hroom]
  congr 1
  omega

theorem Nests.parensIf (needed : Bool) {depth : Nat} {ls : List Lexeme} (h : Nests depth ls) :
    Nests (depth + needed.toNat) (parensIf needed ls) := by
  cases needed with
  | false => exact h
  | true =>
    intro opened deepest hopened
    have hroom : opened + 1 ≤ max deepest (opened + 1) := by omega
    show (ls ++ [closeParen]).foldl countParens (opened + 1, max deepest (opened + 1)) = _
    rw [List.foldl_append, h _ _ hroom]
    show (opened + 1 - 1, max (max deepest (opened + 1)) (opened + 1 + depth)) = _
    rw [Bool.toNat_true]
    congr 1
    omega

/-- Without parentheses none are open. -/
theorem nests_of_not_mem {ls : List Lexeme} (hopen : openParen ∉ ls) (hclose : closeParen ∉ ls) :
    Nests 0 ls := by
  intro opened deepest h
  induction ls with
  | nil =>
    show (opened, deepest) = _
    congr 1
    omega
  | cons l ls ih =>
    rw [List.mem_cons, not_or] at hopen hclose
    have hl : countParens (opened, deepest) l = (opened, deepest) := by
      cases l with
      | openParen => exact absurd rfl hopen.1
      | closeParen => exact absurd rfl hclose.1
      | _ => rfl
    rw [List.foldl_cons, hl]
    exact ih hopen.2 hclose.2

end Lexeme

/-! ### Markers -/

namespace Marker

/-- Whether a marker has a connective. -/
def isJoin : Marker → Bool
  | join .. => true
  | _ => false

/-- Whether a marker is an `or`. -/
def isDisj : Marker → Bool
  | join .disj _ _ => true
  | _ => false

/-- Whether the left side of a join needs parentheses: if it is an `or` under an `and`. -/
def parensLeft : Connective → Marker → Bool
  | .conj, l => l.isDisj
  | .disj, _ => false

/-- Whether the right side of a join needs parentheses: if it is a join under an `and`, or an `or`
under an `or`. -/
def parensRight : Connective → Marker → Bool
  | .conj, r => r.isJoin
  | .disj, r => r.isDisj

/-- The text of a marker with parentheses where they are needed. -/
def print (spell : Comparison → Spelling) : Marker → String
  | literal b => truthText b
  | comparison c => c.print (spell c)
  | join op l r =>
    parensIf (parensLeft op l) (l.print spell) ++ " " ++ op.text ++ " " ++
      parensIf (parensRight op r) (r.print spell)

/-- How many of the parentheses in the printed text stand around each other. -/
def parenDepth : Marker → Nat
  | literal _ => 0
  | comparison _ => 0
  | join op l r =>
    max (l.parenDepth + (parensLeft op l).toNat) (r.parenDepth + (parensRight op r).toNat)

/-- The lexemes of the printed text. -/
def lexemes (spell : Comparison → Spelling) : Marker → List Lexeme
  | literal b => [.word (truthText b)]
  | comparison c => c.lexemes (spell c)
  | join op l r =>
    Lexeme.parensIf (parensLeft op l) (l.lexemes spell) ++
      ([.word op.text] ++ Lexeme.parensIf (parensRight op r) (r.lexemes spell))

/-- The items of the printed text; a truth value is not read back. -/
def items (spell : Comparison → Spelling) : Marker → List Item
  | literal _ => []
  | comparison c => [c.item (spell c)]
  | join op l r =>
    Item.groupIf (parensLeft op l) (l.items spell) ++
      .keyword op :: Item.groupIf (parensRight op r) (r.items spell)

/-- Whether a marker can be printed so that it is read back: there are no truth values in it, and
its comparisons can be. -/
def Printable : Marker → Prop
  | literal _ => False
  | comparison c => c.Printable
  | join _ l r => l.Printable ∧ r.Printable

/-- Whether the comparisons of a marker can be read back in the given spellings. -/
def Fits (spell : Comparison → Spelling) : Marker → Prop
  | literal _ => False
  | comparison c => c.Fits (spell c)
  | join _ l r => l.Fits spell ∧ r.Fits spell

theorem fits_spelling {m : Marker} (h : m.Printable) : m.Fits Comparison.spelling := by
  induction m with
  | literal b => exact h
  | comparison c => exact Comparison.fits_spelling h
  | join op l r ihl ihr => exact ⟨ihl h.1, ihr h.2⟩

/-- `parenDepth` is the nesting of the parentheses that are printed. -/
theorem nesting_lexemes (spell : Comparison → Spelling) (m : Marker) :
    Lexeme.nesting (m.lexemes spell) = m.parenDepth := by
  have hnests : Lexeme.Nests m.parenDepth (m.lexemes spell) := by
    induction m with
    | literal b => exact Lexeme.nests_of_not_mem (by simp [lexemes]) (by simp [lexemes])
    | comparison c =>
      obtain ⟨hopen, hclose⟩ := c.paren_not_mem_lexemes (spell c)
      exact Lexeme.nests_of_not_mem hopen hclose
    | join op l r ihl ihr =>
      have hop : Lexeme.Nests 0 [.word op.text] := Lexeme.nests_of_not_mem (by simp) (by simp)
      have hright := hop.append (ihr.parensIf (parensRight op r))
      rw [Nat.zero_max] at hright
      exact (ihl.parensIf (parensLeft op l)).append hright
  exact hnests.nesting_eq

/-- The text of a marker is a layout of its lexemes. -/
theorem layout_print {spell : Comparison → Spelling} {m : Marker} (h : m.Fits spell) :
    Lexeme.Layout (m.lexemes spell) (m.print spell).toList := by
  induction m with
  | literal b => exact h.elim
  | comparison c => exact Comparison.layout_print h
  | join op l r ihl ihr =>
    -- Parentheses are written without spaces on their inside, all else is a space apart.
    have hlayout := ((ihl h.1).parensIf (parensLeft op l)).append_space
      (op.layout_text.append_space ((ihr h.2).parensIf (parensRight op r)))
    have hprint : ((join op l r).print spell).toList =
        (parensIf (parensLeft op l) (l.print spell)).toList ++ ' ' ::
          (op.text.toList ++ ' ' :: (parensIf (parensRight op r) (r.print spell)).toList) := by
      simp [print]
    rw [hprint]
    exact hlayout

end Marker

end EnvMarkers
