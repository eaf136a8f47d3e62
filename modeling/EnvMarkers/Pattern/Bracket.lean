import EnvMarkers.Pattern.Escape

/-!
# Classes in brackets

How a class in brackets is read: its members, the classes nested in it, and the operations between
them.  Classes nest without limit here; the depth of a class is kept beside it, so that a pattern
can be refused as a whole if it nests too deeply.
-/

namespace EnvMarkers.PatternText

/-- A class that has been opened and not closed yet. -/
structure OpenClass where
  /-- Whether the class is negated. -/
  negated : Bool
  /-- What stands before the last operator, with its depth. -/
  left : Option (SetOperation × CharClass × Nat)
  /-- The members behind the last operator. -/
  members : CharClass
  /-- How many members those are. -/
  count : Nat
  /-- The depth of the deepest of them. -/
  depth : Nat
  deriving Repr, Inhabited

namespace OpenClass

/-- A class without members. -/
def empty (negated : Bool) : OpenClass := ⟨negated, none, .nothing, 0, 0⟩

/-- Adds a member. -/
def add (k : OpenClass) (member : CharClass) (depth : Nat) : OpenClass :=
  { k with members := .union k.members member, count := k.count + 1, depth := max k.depth depth }

/-- The class without its brackets, and its depth. -/
def body (o : PatternOptions) (k : OpenClass) : CharClass × Nat :=
  let depth := if k.count ≤ 1 then k.depth else k.depth + 1
  match k.left with
  | none => (k.members, depth)
  | some (op, left, leftDepth) =>
    (.combined op (foldClass o left) (foldClass o k.members), max leftDepth depth + 1)

/-- Begins the right side of an operator. -/
def operate (o : PatternOptions) (k : OpenClass) (op : SetOperation) : OpenClass :=
  { empty k.negated with left := some (op, k.body o) }

end OpenClass

/-- Takes hyphens at the beginning of a class, which stand for themselves. -/
def takeHyphens (o : PatternOptions) : Nat → OpenClass → List Char → OpenClass × List Char
  | fuel + 1, k, '-' :: cs => takeHyphens o fuel (k.add (.single '-') 0) (skip o cs)
  | _, k, cs => (k, cs)

/-- Opens a class, behind its bracket: a caret negates it, and a closing bracket that comes first
stands for itself. -/
def openClass? (o : PatternOptions) (cs : List Char) : Option (OpenClass × List Char) :=
  let (negated, cs) := match skip o cs with
    | '^' :: cs => (true, skip o cs)
    | cs => (false, cs)
  let (k, cs) := takeHyphens o cs.length (.empty negated) cs
  let (k, cs) := match cs with
    | ']' :: rest => if k.count = 0 then (k.add (.single ']') 0, skip o rest) else (k, cs)
    | _ => (k, cs)
  if cs.isEmpty then none else some (k, cs)

/-- Reads a named class of ASCII characters, behind its first bracket: whether it is negated, and
the class. -/
def asciiClass? (cs : List Char) : Option (Bool × CharClass × List Char) := do
  let (negated, cs) ← match cs with
    | ':' :: '^' :: cs => some (true, cs)
    | ':' :: cs => some (false, cs)
    | _ => none
  match cs.dropWhile (· != ':') with
  | ':' :: ']' :: rest =>
    let c ← CharClass.asciiByName? (String.ofList (cs.takeWhile (· != ':')))
    some (negated, c, rest)
  | _ => none

/-- The next character that counts behind a hyphen in a class. -/
def peekBehind (o : PatternOptions) (cs : List Char) : Option Char :=
  if o.verbose then
    let behindBlank := cs.dropWhile Text.isBlank
    let counting := match behindBlank with
      | '#' :: cs => cs.dropWhile Text.isBlank
      | cs => cs
    counting.head?.or cs.head?
  else cs.head?

/-- Reads a character or an escape inside a class. -/
def classPrimitive? (o : PatternOptions) : List Char → Option (Primitive × List Char)
  | [] => none
  | '\\' :: cs => escape? o cs
  | c :: cs => some (.char c false, cs)

/-- The character that an end of a range stands for. -/
def rangeEnd? (o : PatternOptions) : Primitive → Option Char
  | .char c _ => if o.unicode || c.toNat < 0x80 then some c else none
  | _ => none

/-- The class that a single member stands for. -/
def memberClass? (o : PatternOptions) : Primitive → Option CharClass
  | .set c => some c
  | p => (rangeEnd? o p).map .single

/-- Reads a member of a class: a character, an escape or a range. -/
def classMember? (o : PatternOptions) (cs : List Char) : Option (CharClass × List Char) := do
  let (first, cs) ← classPrimitive? o cs
  match skip o cs with
  | [] => none
  | '-' :: behind =>
    let next := peekBehind o behind
    if next = some ']' ∨ next = some '-' then some (← memberClass? o first, '-' :: behind)
    else
      let (last, rest) ← classPrimitive? o (skip o behind)
      let a ← rangeEnd? o first
      let b ← rangeEnd? o last
      if a ≤ b then some (.range a b, rest) else none
  | cs => some (← memberClass? o first, cs)

/-- The operator at the front of some characters. -/
def setOperation? : List Char → Option (SetOperation × List Char)
  | '&' :: '&' :: cs => some (.intersection, cs)
  | '-' :: '-' :: cs => some (.difference, cs)
  | '~' :: '~' :: cs => some (.symmetricDifference, cs)
  | _ => none

/-- Reads on in the class `k`, which stands inside the classes `outer`, the innermost first.
Every round takes a character, so the number of characters bounds the rounds. -/
def readClass? (o : PatternOptions) :
    Nat → OpenClass → List OpenClass → List Char → Option (CharClass × Nat × List Char)
  | 0, _, _, _ => none
  | fuel + 1, k, outer, cs =>
    match skip o cs with
    | [] => none
    | '[' :: cs =>
      match asciiClass? cs with
      | some (negated, c, rest) => do
        readClass? o fuel (k.add (← finishClass? o negated c) 0) outer rest
      | none => do
        let (inner, rest) ← openClass? o cs
        readClass? o fuel inner (k :: outer) rest
    | ']' :: cs => do
      let (body, depth) := k.body o
      let c ← finishClass? o k.negated body
      match outer with
      | [] => some (c, depth + 1, cs)
      | parent :: outer => readClass? o fuel (parent.add c (depth + 1)) outer cs
    | cs =>
      match setOperation? cs with
      | some (op, rest) => readClass? o fuel (k.operate o op) outer rest
      | none => do
        let (c, rest) ← classMember? o cs
        readClass? o fuel (k.add c 0) outer rest

/-- Reads a class behind its opening bracket: the class, its depth, and what follows it. -/
def bracketClass? (o : PatternOptions) (cs : List Char) : Option (CharClass × Nat × List Char) := do
  let (k, rest) ← openClass? o cs
  readClass? o (rest.length + 1) k [] rest

end EnvMarkers.PatternText
