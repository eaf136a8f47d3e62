import EnvMarkers.Marker.Comparator

/-!
# Marker trees

A marker is a truth value, a comparison, or two markers joined by a connective.  A long chain of
comparisons is a tree as deep as the chain is long, so the text of a marker (`Marker.text`) and
the question whether it still reads a name (`Marker.mentions`) are answered by walks that keep
what is left to do in a list of their own.  The lemmas `text_join` and `mentions_join` say that
the walks agree with recursion on the tree.
-/

namespace EnvMarkers

/-- One comparison: the text on the left, the comparator, the text on the right. -/
structure Comparison where
  /-- The name whose candidates decide the comparison. -/
  lhs : String
  /-- How the two sides are compared. -/
  comparator : Comparator
  /-- What the candidates are compared with. -/
  rhs : String
  deriving DecidableEq, Repr, Inhabited

namespace Comparison

/-- The written form of a comparison, without quotes. -/
def text (c : Comparison) : String :=
  c.lhs ++ " " ++ c.comparator.text ++ " " ++ c.rhs

end Comparison

/-- A marker. -/
inductive Marker where
  /-- A truth value. -/
  | literal (state : Bool)
  /-- A single comparison. -/
  | comparison (c : Comparison)
  /-- Two markers and the connective between them. -/
  | join (op : Connective) (left right : Marker)
  deriving DecidableEq, Repr, Inhabited

namespace Marker

/-- The truth value of a marker that is a literal. -/
def literal? : Marker → Option Bool
  | literal b => some b
  | _ => none

/-- The written form of a truth value. -/
def truthText : Bool → String
  | true => "True"
  | false => "False"

/-- The name under which a reader knows the form of a marker. -/
def form : Marker → String
  | literal _ => "BooleanNode"
  | comparison _ => "ExpressionNode"
  | join .. => "OperatorNode"

/-- A measure of the work a walk over the tree does; a join costs more than its two sides and the
word between them. -/
def weight : Marker → Nat
  | literal _ => 1
  | comparison _ => 1
  | join _ l r => l.weight + r.weight + 2

/-! ### The text of a marker -/

/-- A part of the text that is still to be written. -/
inductive Piece where
  /-- The text of a whole marker. -/
  | marker (m : Marker)
  /-- The word between the two sides of a join. -/
  | word (op : Connective)

/-- The measure of one piece. -/
def Piece.weight : Piece → Nat
  | .marker m => m.weight
  | .word _ => 1

/-- Writes the pieces one after another behind the text written so far. -/
def write : List Piece → String → String
  | [], out => out
  | .word op :: rest, out => write rest (out ++ " " ++ op.text ++ " ")
  | .marker (literal b) :: rest, out => write rest (out ++ truthText b)
  | .marker (comparison c) :: rest, out => write rest (out ++ c.text)
  | .marker (join op l r) :: rest, out =>
    write (.marker l :: .word op :: .marker r :: rest) out
termination_by pieces => pieces.foldr (fun p n => p.weight + n) 0
decreasing_by all_goals simp [Piece.weight, Marker.weight]; try omega

/-- The text of a marker.  Sides are not put in parentheses, so trees that differ only in how
they are grouped have one text. -/
def text (m : Marker) : String :=
  write [.marker m] ""

/-- What is already written stays in front. -/
theorem write_append (pieces : List Piece) (front out : String) :
    write pieces (front ++ out) = front ++ write pieces out := by
  fun_induction write pieces out with
  | case1 out => rw [write]
  | case2 op rest out ih => rw [write, ← ih]; simp [String.append_assoc]
  | case3 b rest out ih => rw [write, ← ih, String.append_assoc]
  | case4 c rest out ih => rw [write, ← ih, String.append_assoc]
  | case5 op l r rest out ih => rw [write, ih]

/-- The pieces of one list are written before those of the next. -/
theorem write_pieces_append (first second : List Piece) (out : String) :
    write (first ++ second) out = write second (write first out) := by
  fun_induction write first out with
  | case1 out => rfl
  | case2 op rest out ih => rw [List.cons_append, write, ih]
  | case3 b rest out ih => rw [List.cons_append, write, ih]
  | case4 c rest out ih => rw [List.cons_append, write, ih]
  | case5 op l r rest out ih => rw [List.cons_append, write, ← ih]; rfl

/-- A marker among the pieces adds its own text. -/
theorem write_marker (m : Marker) (rest : List Piece) (out : String) :
    write (.marker m :: rest) out = write rest (out ++ m.text) := by
  have h := write_pieces_append [.marker m] rest out
  rw [List.singleton_append] at h
  rw [h, text, ← write_append, String.append_empty]

@[simp] theorem text_literal (b : Bool) : (literal b).text = truthText b := by
  simp [text, write]

@[simp] theorem text_comparison (c : Comparison) : (comparison c).text = c.text := by
  simp [text, write]

/-- The text of a join is the text of its sides with the connective between them. -/
@[simp] theorem text_join (op : Connective) (l r : Marker) :
    (join op l r).text = l.text ++ " " ++ op.text ++ " " ++ r.text := by
  rw [text, write, write_marker, write, write_marker, write]
  simp

/-! ### The names a marker reads -/

/-- Whether one of the markers has a comparison with the given left side. -/
def anyMentions (key : String) : List Marker → Bool
  | [] => false
  | literal _ :: rest => anyMentions key rest
  | comparison c :: rest => if c.lhs == key then true else anyMentions key rest
  | join _ l r :: rest => anyMentions key (l :: r :: rest)
termination_by ms => ms.foldr (fun m n => m.weight + n) 0
decreasing_by all_goals simp [weight]; try omega

/-- Whether a comparison of the marker still reads the name `key`. -/
def mentions (m : Marker) (key : String) : Bool :=
  anyMentions key [m]

theorem anyMentions_append (key : String) (first second : List Marker) :
    anyMentions key (first ++ second) = (anyMentions key first || anyMentions key second) := by
  fun_induction anyMentions key first with
  | case1 => rfl
  | case2 b rest ih => rw [List.cons_append, anyMentions, ih]
  | case3 c rest h => rw [List.cons_append, anyMentions, if_pos h]; rfl
  | case4 c rest h ih => rw [List.cons_append, anyMentions, if_neg h, ih]
  | case5 op l r rest ih => rw [List.cons_append, anyMentions, ← ih]; rfl

@[simp] theorem mentions_literal (b : Bool) (key : String) : (literal b).mentions key = false := by
  simp [mentions, anyMentions]

@[simp] theorem mentions_comparison (c : Comparison) (key : String) :
    (comparison c).mentions key = (c.lhs == key) := by
  simp only [mentions, anyMentions]
  split <;> simp_all

/-- A join mentions what one of its sides mentions. -/
@[simp] theorem mentions_join (op : Connective) (l r : Marker) (key : String) :
    (join op l r).mentions key = (l.mentions key || r.mentions key) := by
  rw [mentions, anyMentions]
  exact anyMentions_append key [l] [r]

end Marker

end EnvMarkers
