import EnvMarkers.Marker.Evaluation
import Mathlib.Data.Nat.SuccPred
import Mathlib.Logic.Function.Iterate
import Mathlib.Order.Iterate

/-!
# Walks over a marker

The text of a marker and the question whether it mentions a name are walks with a list of what is
pending.  Both end, after no more rounds than the measure of the marker says, and come to what
recursion on the tree comes to, however deep it is (`Marker.walks_by_recursion`).

A round of the first walk moves a part of the text from what is pending to what is written, so both
together are the same text in every round (`Marker.Writing.outcome_next`).  A round of the second
one drops a marker from what is pending only if it cannot answer the question
(`Marker.Search.answer_next`).
-/

namespace EnvMarkers.Marker

/-- What no round changes is the same after any number of rounds. -/
theorem iterate_unchanged {σ β : Type} {next : σ → σ} {view : σ → β}
    (h : ∀ s, view (next s) = view s) (s : σ) (n : Nat) : view (next^[n] s) = view s := by
  induction n with
  | zero => rfl
  | succ n ih => rw [Function.iterate_succ_apply', h, ih]

/-! ### Recursion on the tree -/

/-- The text of the left side of a join, the connective, and the text of the right side. -/
def rendering : Marker → String
  | literal b => truthText b
  | comparison c => c.text
  | join op l r => l.rendering ++ (" " ++ op.text ++ " ") ++ r.rendering

/-- The text of a piece. -/
def Piece.rendering : Piece → String
  | .marker m => m.rendering
  | .word op => " " ++ op.text ++ " "

/-- The leaves of a marker and the connectives between them, from left to right. -/
def inOrder : Marker → List Piece
  | literal b => [.marker (literal b)]
  | comparison c => [.marker (comparison c)]
  | join op l r => l.inOrder ++ .word op :: r.inOrder

theorem rendering_eq_join (m : Marker) :
    m.rendering = String.join (m.inOrder.map Piece.rendering) := by
  induction m with
  | literal b => simp [inOrder, Piece.rendering]
  | comparison c => simp [inOrder, Piece.rendering]
  | join op l r ihl ihr =>
    rw [rendering, ihl, ihr, inOrder, List.map_append, List.map_cons, String.join_append,
      String.join_cons, String.append_assoc]
    rfl

/-! ### Writing the text -/

/-- A text that is being written. -/
structure Writing where
  /-- What is still to be written, the next piece first. -/
  pieces : List Piece
  /-- What has been written. -/
  out : String

namespace Writing

/-- Nothing of a marker has been written. -/
def start (m : Marker) : Writing := ⟨[.marker m], ""⟩

/-- What a round of `Marker.write` makes of the pieces and of the text. -/
def next : Writing → Writing
  | ⟨[], out⟩ => ⟨[], out⟩
  | ⟨.word op :: rest, out⟩ => ⟨rest, out ++ " " ++ op.text ++ " "⟩
  | ⟨.marker (literal b) :: rest, out⟩ => ⟨rest, out ++ truthText b⟩
  | ⟨.marker (comparison c) :: rest, out⟩ => ⟨rest, out ++ c.text⟩
  | ⟨.marker (join op l r) :: rest, out⟩ => ⟨.marker l :: .word op :: .marker r :: rest, out⟩

/-- The rounds that are left. -/
def weight (w : Writing) : Nat :=
  w.pieces.foldr (fun p n => p.weight + n) 0

/-- What has been written and the texts of the pieces that are left. -/
def outcome (w : Writing) : String :=
  w.out ++ String.join (w.pieces.map Piece.rendering)

/-- What `Marker.write` makes of the pieces that are left. -/
def written (w : Writing) : String :=
  write w.pieces w.out

theorem weight_start (m : Marker) : (start m).weight = m.weight := by
  simp [start, weight, Piece.weight]

theorem weight_next (w : Writing) : w.next.weight = w.weight.pred := by
  obtain ⟨pieces, out⟩ := w
  match pieces with
  | [] => rfl
  | .word op :: rest => simp [next, weight, Piece.weight]
  | .marker (literal _) :: rest | .marker (comparison _) :: rest =>
    simp [next, weight, Piece.weight, Marker.weight]
  | .marker (join op l r) :: rest =>
    simp only [next, weight, Piece.weight, Marker.weight, List.foldr_cons, Nat.pred_eq_sub_one]
    omega

theorem pieces_eq_nil_iff (w : Writing) : w.pieces = [] ↔ w.weight = 0 := by
  obtain ⟨pieces, out⟩ := w
  match pieces with
  | [] => simp [weight]
  | .word op :: rest => simp [weight, Piece.weight]
  | .marker m :: rest => cases m <;> simp [weight, Piece.weight, Marker.weight]

/-- A round writes a part of what is left to be written. -/
theorem outcome_next (w : Writing) : w.next.outcome = w.outcome := by
  obtain ⟨pieces, out⟩ := w
  match pieces with
  | [] => rfl
  | .word op :: rest => simp [next, outcome, Piece.rendering, String.append_assoc]
  | .marker (literal _) :: rest | .marker (comparison _) :: rest | .marker (join ..) :: rest =>
    simp [next, outcome, Piece.rendering, rendering, String.append_assoc]

theorem written_next (w : Writing) : w.next.written = w.written := by
  obtain ⟨pieces, out⟩ := w
  match pieces with
  | [] => rfl
  | .word op :: rest | .marker (literal _) :: rest | .marker (comparison _) :: rest =>
    rw [next, written, written, write]
  | .marker (join op l r) :: rest => rw [next, written, written, ← write]

theorem weight_iterate (w : Writing) (n : Nat) : (next^[n] w).weight = w.weight - n := by
  have hround : Function.Semiconj weight next Nat.pred := weight_next
  rw [(hround.iterate_right n).eq, Nat.pred_iterate]

/-- A marker is written in as many rounds as its measure says. -/
theorem pieces_iterate_eq_nil_iff (m : Marker) (n : Nat) :
    (next^[n] (start m)).pieces = [] ↔ m.weight ≤ n := by
  rw [pieces_eq_nil_iff, weight_iterate, weight_start, Nat.sub_eq_zero_iff_le]

/-- At the end everything has been written. -/
theorem out_of_ended {w : Writing} {n : Nat} (h : (next^[n] w).pieces = []) :
    (next^[n] w).out = w.outcome ∧ (next^[n] w).out = w.written := by
  have houtcome := iterate_unchanged outcome_next w n
  have hwritten := iterate_unchanged written_next w n
  constructor
  · rw [← houtcome, outcome, h, List.map_nil, String.join_nil, String.append_empty]
  · rw [← hwritten, written, h, write]

end Writing

theorem text_eq_rendering (m : Marker) : m.text = m.rendering := by
  have hend := (Writing.pieces_iterate_eq_nil_iff m m.weight).mpr (Nat.le_refl _)
  obtain ⟨houtcome, hwritten⟩ := Writing.out_of_ended hend
  have hstart : (Writing.start m).outcome = m.rendering := by
    simp [Writing.start, Writing.outcome, Piece.rendering]
  rw [← hstart, ← houtcome, hwritten]
  rfl

/-! ### Looking for a name -/

/-- A search for a comparison with a name on the left. -/
structure Search where
  /-- The markers that are still to be searched, the next one first. -/
  pending : List Marker
  /-- Whether there has been such a comparison. -/
  found : Bool

namespace Search

/-- Nothing of a marker has been searched. -/
def start (m : Marker) : Search := ⟨[m], false⟩

variable (key : String)

/-- What a round of `Marker.anyMentions` makes of the markers. -/
def next : Search → Search
  | ⟨pending, true⟩ => ⟨pending, true⟩
  | ⟨[], false⟩ => ⟨[], false⟩
  | ⟨literal _ :: rest, false⟩ => ⟨rest, false⟩
  | ⟨comparison c :: rest, false⟩ => ⟨rest, c.lhs == key⟩
  | ⟨join _ l r :: rest, false⟩ => ⟨l :: r :: rest, false⟩

/-- Whether there are no more rounds. -/
def IsOver (s : Search) : Prop :=
  s.found = true ∨ s.pending = []

/-- A bound for the rounds that are left. -/
def weight (s : Search) : Nat :=
  if s.found then 0 else s.pending.foldr (fun m n => m.weight + n) 0

/-- Whether the name has been found or is mentioned by a marker that is still to be searched. -/
def answer (s : Search) : Bool :=
  s.found || anyMentions key s.pending

theorem weight_start (m : Marker) : (start m).weight = m.weight := by
  simp [start, weight]

theorem weight_next_le (s : Search) : (s.next key).weight ≤ s.weight.pred := by
  obtain ⟨pending, found⟩ := s
  match pending, found with
  | pending, true => simp [next, weight]
  | [], false => simp [next, weight]
  | literal _ :: rest, false => simp [next, weight, Marker.weight]
  | comparison c :: rest, false =>
    cases hfound : c.lhs == key <;> simp [next, weight, Marker.weight, hfound]
  | join _ l r :: rest, false =>
    simp only [next, weight, Marker.weight, List.foldr_cons, Nat.pred_eq_sub_one,
      Bool.false_eq_true, if_false]
    omega

theorem isOver_iff (s : Search) : s.IsOver ↔ s.weight = 0 := by
  obtain ⟨pending, found⟩ := s
  match pending, found with
  | pending, true => simp [IsOver, weight]
  | [], false => simp [IsOver, weight]
  | m :: rest, false => cases m <;> simp [IsOver, weight, Marker.weight]

/-- A round does not change the answer. -/
theorem answer_next (s : Search) : (s.next key).answer key = s.answer key := by
  obtain ⟨pending, found⟩ := s
  match pending, found with
  | pending, true => rfl
  | [], false => rfl
  | literal _ :: rest, false => simp [next, answer, anyMentions]
  | comparison c :: rest, false =>
    rw [next, answer, answer, anyMentions]
    cases c.lhs == key <;> rfl
  | join _ l r :: rest, false => simp [next, answer, anyMentions]

theorem weight_iterate_le (s : Search) (n : Nat) : ((next key)^[n] s).weight ≤ s.weight - n := by
  have hround : weight ∘ next key ≤ Nat.pred ∘ weight := weight_next_le key
  have hmono : Monotone Nat.pred := fun _ _ => Nat.pred_le_pred
  rw [← Nat.pred_iterate]
  exact hmono.le_iterate_comp_of_le hround n s

/-- At the end the name has been found if it is mentioned at all. -/
theorem found_of_isOver {s : Search} (h : s.IsOver) : s.found = s.answer key := by
  obtain ⟨pending, found⟩ := s
  rcases h with rfl | rfl
  · rfl
  · simp [answer, anyMentions]

end Search

/-! ### Both walks -/

/-- The text of a marker is written in as many rounds as the measure of the marker says, and is what
recursion on the tree comes to.  It depends on the order of the leaves and connectives alone, not on
how they are grouped.  The search for a name is over after no more rounds than that, and has found
the name if it stands on the left of a comparison, that is, in one of the sides of a join. -/
theorem walks_by_recursion (m : Marker) :
    (∀ n, (Writing.next^[n] (Writing.start m)).pieces = [] ↔ m.weight ≤ n) ∧
      (Writing.next^[m.weight] (Writing.start m)).out = m.text ∧
      m.text = m.rendering ∧
      (∀ other : Marker, m.inOrder = other.inOrder → m.text = other.text) ∧
      ∀ key,
        (∀ n, m.weight ≤ n → ((Search.next key)^[n] (Search.start m)).IsOver) ∧
        (∀ n, ((Search.next key)^[n] (Search.start m)).IsOver →
          ((Search.next key)^[n] (Search.start m)).found = m.mentions key) ∧
        (m.mentions key = true ↔ ∃ c ∈ m.comparisons, c.lhs = key) ∧
        ∀ op l r, m = join op l r → m.mentions key = (l.mentions key || r.mentions key) := by
  have hends := Writing.pieces_iterate_eq_nil_iff m
  have hout := Writing.out_of_ended ((hends m.weight).mpr (Nat.le_refl _))
  refine ⟨hends, hout.2, text_eq_rendering m, ?_, fun key => ⟨?_, ?_, mentions_iff m key, ?_⟩⟩
  · intro other horder
    rw [text_eq_rendering, text_eq_rendering, rendering_eq_join, rendering_eq_join, horder]
  · intro n hn
    have hbound := Search.weight_iterate_le key (Search.start m) n
    rw [Search.weight_start] at hbound
    rw [Search.isOver_iff]
    omega
  · intro n hover
    have hanswer := iterate_unchanged (Search.answer_next key) (Search.start m) n
    rw [Search.found_of_isOver key hover, hanswer]
    rfl
  · rintro op l r rfl
    exact mentions_join op l r key

/-- Two markers that differ in how they are grouped have one text.  The name on the left of the
first comparison is found before anything else has been looked at. -/
theorem walks_by_recursion_regrouped :
    let first : Marker := comparison ⟨"os_name", .equal, "nt"⟩
    let second : Marker := comparison ⟨"extra", .equal, "test"⟩
    let m := join .disj first (join .conj second (literal true))
    let other := join .conj (join .disj first second) (literal true)
    m.inOrder = other.inOrder ∧ m.text = other.text ∧
      (Writing.next^[7] (Writing.start m)).out = "os_name == nt or extra == test and True" ∧
      ((Search.next "extra")^[7] (Search.start m)).IsOver ∧ m.mentions "extra" = true ∧
      ((Search.next "os_name")^[2] (Search.start m)).IsOver ∧
      ((Search.next "os_name")^[2] (Search.start m)).found = m.mentions "os_name" ∧
      m.mentions "os_name" =
        (first.mentions "os_name" || (join .conj second (literal true)).mentions "os_name") := by
  intro first second m other
  obtain ⟨-, hout, hrendering, horder, hsearch⟩ := walks_by_recursion m
  have hregrouped : m.inOrder = other.inOrder := rfl
  obtain ⟨hends, -, hmentions, -⟩ := hsearch "extra"
  obtain ⟨-, hfound, -, hsides⟩ := hsearch "os_name"
  have hover : ((Search.next "os_name")^[2] (Search.start m)).IsOver := .inl rfl
  refine ⟨hregrouped, horder other hregrouped, ?_, hends 7 (Nat.le_refl 7), ?_, hover,
    hfound 2 hover, hsides _ _ _ rfl⟩
  · have htext : m.rendering = "os_name == nt or extra == test and True" := by rfl
    exact hout.trans (hrendering.trans htext)
  · exact hmentions.mpr ⟨⟨"extra", .equal, "test"⟩, by simp [m, first, second, comparisons], rfl⟩

end EnvMarkers.Marker
