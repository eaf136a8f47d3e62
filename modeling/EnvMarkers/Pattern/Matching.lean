import EnvMarkers.Pattern.Expr

/-!
# Matching

Whether an expression matches some part of a text.  For one text, each test of an expression is
first replaced by the set of positions at which it succeeds (`Expr.resolve`); what is left is how
a set of positions moves through the text (`Moves.run`).  A position is the number of characters
before it, and a set of positions the number whose bits it is.

No move goes backwards, so after as many repetitions as there are positions a set changes no
more; a repetition never needs to be tried more often than that.
-/

namespace EnvMarkers

/-- A set of positions, one bit for each. -/
abbrev Positions := Nat

/-- What an expression does to positions in one text. -/
inductive Moves where
  /-- Every position stays. -/
  | stay
  /-- The positions of a set stay, all others are lost. -/
  | stayAt (kept : Positions)
  /-- The positions of a set move over the next character, all others are lost. -/
  | step (kept : Positions)
  /-- One after the other. -/
  | sequence (a b : Moves)
  /-- Either. -/
  | choice (a b : Moves)
  /-- At least `least` times, and at most `most` times if there is a bound. -/
  | repeated (a : Moves) (least : Nat) (most : Option Nat)
  deriving Repr, Inhabited

namespace Moves

/-- Applies a move a number of times, or until it changes nothing. -/
def iterate (f : Positions → Positions) : Nat → Positions → Positions
  | 0, s => s
  | k + 1, s =>
    let next := f s
    if next = s then s else iterate f k next

/-- The positions reached by applying a move up to a number of times. -/
def spread (f : Positions → Positions) : Nat → Positions → Positions :=
  iterate fun s => s ||| f s

/-- Where a set of positions gets to; `bound` is the number of positions in the text. -/
def run (bound : Nat) : Moves → Positions → Positions
  | stay, s => s
  | stayAt kept, s => s &&& kept
  | step kept, s => (s &&& kept) <<< 1
  | sequence a b, s => b.run bound (a.run bound s)
  | choice a b, s => a.run bound s ||| b.run bound s
  | repeated a least most, s =>
    let further := match most with
      | some most => min (most - least) bound
      | none => bound
    spread (a.run bound) further (iterate (a.run bound) (min least bound) s)

end Moves

/-- The places of a text: the character before each position and the one behind it. -/
def places (before : Option Char) : List Char → List (Option Char × Option Char)
  | [] => [(before, none)]
  | c :: cs => (before, some c) :: places (some c) cs

/-- The positions at which a test succeeds. -/
def positionsWhere (test : Option Char → Option Char → Bool)
    (ps : List (Option Char × Option Char)) : Positions :=
  ps.foldr (fun (before, after) s => 2 * s + if test before after then 1 else 0) 0

namespace Expr

/-- What an expression does to the positions of a text with the given places. -/
def resolve (ps : List (Option Char × Option Char)) : Expr → Moves
  | empty => .stay
  | one c => .step (positionsWhere (fun _ after => after.any c.contains) ps)
  | assertion a => .stayAt (positionsWhere a.holds ps)
  | sequence a b => .sequence (a.resolve ps) (b.resolve ps)
  | choice a b => .choice (a.resolve ps) (b.resolve ps)
  | repeated a least most => .repeated (a.resolve ps) least most

/-- Whether an expression matches some part of a text. -/
def matchesIn (e : Expr) (text : List Char) : Bool :=
  let ps := places none text
  (e.resolve ps).run ps.length ((1 <<< ps.length) - 1) != 0

end Expr

end EnvMarkers
