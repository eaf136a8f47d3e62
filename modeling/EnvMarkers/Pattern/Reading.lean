import EnvMarkers.Pattern.Bracket

/-!
# Reading patterns

How the text of a pattern becomes an expression.  The reader keeps the sequence it is in, the
groups around it, and the options in force; an option that is switched inside a group goes back
to what it was where the group ends.

A pattern that nests too deeply, or that is too large when its repetitions are written out, is
refused.  Whether it is too large is only estimated, by the number of its steps (`Expr.size`), where
the memory that a compiled pattern takes up should count.  Near the limit the two do not agree: some
repetitions of large classes, such as `\p{Any}{145}`, are refused without need, and since groups are
not counted, `(a){200000}` is accepted.
-/

namespace EnvMarkers

namespace PatternText

/-- How deeply a pattern may nest. -/
def maxPatternDepth : Nat := 250

/-- How many elementary steps a pattern may have when its repetitions are written out.  It stands
for a limit on memory: ten mebibytes, at 32 bytes a step. -/
def maxPatternSize : Nat := 327680

/-- A part of a sequence. -/
structure Part where
  /-- What the part matches. -/
  expr : Expr
  /-- How deeply the part nests. -/
  depth : Nat
  /-- Whether the part may be repeated; only options by themselves may not. -/
  repeatable : Bool
  deriving Repr, Inhabited

/-- The sequence that is being read, and the choices before it at the same level. -/
structure Level where
  /-- The complete choices, the latest first. -/
  choices : List Part
  /-- The parts of the sequence, the latest first. -/
  parts : List Part
  deriving Repr, Inhabited

namespace Level

/-- A level where nothing has been read. -/
def start : Level := ⟨[], []⟩

/-- Puts the parts of a list together; a single part needs no level of its own. -/
def gather (none : Expr) (op : Expr → Expr → Expr) : List Part → Part
  | [] => ⟨none, 0, true⟩
  | [part] => part
  | last :: before =>
    ⟨before.foldl (fun e part => op part.expr e) last.expr,
      1 + (last :: before).foldl (fun d part => max d part.depth) 0, true⟩

/-- The sequence as one part. -/
def sequencePart (l : Level) : Part :=
  gather .empty .sequence l.parts

/-- Ends the sequence and begins the next choice. -/
def nextChoice (l : Level) : Level :=
  ⟨l.sequencePart :: l.choices, []⟩

/-- The whole level as one part. -/
def close (l : Level) : Part :=
  gather .empty .choice (l.sequencePart :: l.choices)

/-- Adds a part to the sequence. -/
def add (l : Level) (part : Part) : Level :=
  { l with parts := part :: l.parts }

end Level

/-- The state of a reader of patterns. -/
structure Reader where
  /-- The level that is being read. -/
  level : Level
  /-- The levels around the open groups, the innermost first, with the options before each. -/
  groups : List (Level × PatternOptions)
  /-- The options in force. -/
  options : PatternOptions
  /-- The names of groups so far. -/
  names : List (List Char)
  deriving Repr, Inhabited

namespace Reader

/-- A reader that has seen nothing. -/
def start (o : PatternOptions) : Reader := ⟨.start, [], o, []⟩

/-- Adds a part to the sequence. -/
def add (r : Reader) (expr : Expr) (depth : Nat) : Reader :=
  { r with level := r.level.add ⟨expr, depth, true⟩ }

/-- Opens a group with options of its own. -/
def openGroup (r : Reader) (o : PatternOptions) : Reader :=
  { r with level := .start, groups := (r.level, r.options) :: r.groups, options := o }

/-- Closes the innermost group. -/
def closeGroup? (r : Reader) : Option Reader :=
  match r.groups with
  | [] => none
  | (outer, o) :: groups =>
    let inner := r.level.close
    some { r with
      level := outer.add ⟨inner.expr, inner.depth + 1, true⟩, groups := groups, options := o }

/-- Repeats the last part of the sequence. -/
def repeatLast? (r : Reader) (least : Nat) (most : Option Nat) : Option Reader :=
  match r.level.parts with
  | part :: parts =>
    if part.repeatable then
      some { r with
        level := { r.level with
          parts := ⟨.repeated part.expr least most, part.depth + 1, true⟩ :: parts } }
    else none
  | [] => none

/-- The expression of the whole pattern. -/
def finish? (r : Reader) : Option Expr :=
  if r.groups.isEmpty then
    let whole := r.level.close
    if whole.depth ≤ maxPatternDepth && whole.expr.size ≤ maxPatternSize then some whole.expr
    else none
  else none

end Reader

/-! ### Options and names of groups -/

/-- What may stand among the options of a group. -/
inductive OptionItem where
  /-- From here on options are switched off. -/
  | negation
  /-- An option. -/
  | option (o : PatternOption)
  deriving DecidableEq, Repr, Inhabited

/-- Reads options up to the `:` or `)` that ends them; `seen` are those read so far, the latest
first.  None may come twice, and a hyphen may not be the last of them. -/
def optionItems? (seen : List OptionItem) :
    List Char → Option (List OptionItem × Char × List Char)
  | [] => none
  | c :: cs =>
    if c == ':' || c == ')' then
      if seen.head? = some .negation then none else some (seen.reverse, c, cs)
    else do
      let item ← if c == '-' then some .negation else (PatternOption.ofChar? c).map .option
      if item ∈ seen then none else optionItems? (item :: seen) cs

/-- The options after some have been switched. -/
def applyOptions (o : PatternOptions) (items : List OptionItem) : PatternOptions :=
  let switch : Bool × PatternOptions → OptionItem → Bool × PatternOptions
    | (_, o), .negation => (false, o)
    | (on, o), .option p => (on, p.set on o)
  (items.foldl switch (true, o)).2

/-- Whether a character may begin the name of a group. -/
def isNameStart (c : Char) : Bool :=
  c == '_' || Text.isAlphabetic c

/-- Whether a character may go on in the name of a group. -/
def isNameChar (c : Char) : Bool :=
  c == '_' || c == '.' || c == '[' || c == ']' || Text.isAlphanumeric c

/-- Reads the name of a group, which no other group may have. -/
def groupName? (names : List (List Char)) (cs : List Char) : Option (List Char × List Char) :=
  match cs.span (· != '>') with
  | (c :: name, _ :: rest) =>
    if isNameStart c && name.all isNameChar && !names.contains (c :: name) then
      some (c :: name, rest)
    else none
  | _ => none

/-- Reads what follows an opening parenthesis: a group, or options by themselves.  Looking around
a position is not possible. -/
def group? (r : Reader) (cs : List Char) : Option (Reader × List Char) :=
  let named (cs : List Char) : Option (Reader × List Char) := do
    let (name, rest) ← groupName? r.names cs
    some ({ r.openGroup r.options with names := name :: r.names }, rest)
  match skip r.options cs with
  | '?' :: '=' :: _ | '?' :: '!' :: _ | '?' :: '<' :: '=' :: _ | '?' :: '<' :: '!' :: _ => none
  | '?' :: 'P' :: '<' :: cs => named cs
  | '?' :: '<' :: cs => named cs
  | '?' :: cs => do
    let (items, ending, rest) ← optionItems? [] cs
    let o := applyOptions r.options items
    if ending == ':' then some (r.openGroup o, rest)
    else if items.isEmpty then none
    else some ({ r with level := r.level.add ⟨.empty, 0, false⟩, options := o }, rest)
  | cs => some (r.openGroup r.options, cs)

/-! ### Repetitions -/

/-- The largest number that may bound a repetition. -/
def maxRepetitionCount : Nat := UInt32.size - 1

/-- Reads a number with white space around it. -/
def repetitionCount? (o : PatternOptions) (cs : List Char) : Option (Nat × List Char) :=
  let (digits, rest) := takeAll o Char.isDigit (cs.dropWhile Text.isBlank)
  let (_, rest) := takeAll o Text.isBlank rest
  let n := Text.decimalValue digits
  if digits.isEmpty || n > maxRepetitionCount then none else some (n, rest)

/-- Drops the question mark that makes a repetition prefer fewer rounds. -/
def dropLazy : List Char → List Char
  | '?' :: cs => cs
  | cs => cs

/-- Reads the bounds of a repetition, behind the opening brace. -/
def repetitionBounds? (o : PatternOptions) (cs : List Char) :
    Option (Nat × Option Nat × List Char) := do
  let (least, cs) ← repetitionCount? o (skip o cs)
  match cs with
  | ',' :: cs =>
    match skip o cs with
    | '\x7d' :: rest => some (least, none, dropLazy (skip o rest))
    | cs =>
      let (most, cs) ← repetitionCount? o cs
      match cs with
      | '\x7d' :: rest =>
        if least ≤ most then some (least, some most, dropLazy (skip o rest)) else none
      | _ => none
  | '\x7d' :: rest => some (least, some least, dropLazy (skip o rest))
  | _ => none

/-! ### The whole pattern -/

/-- The expression of a single character, escape or assertion. -/
def primitiveExpr? (o : PatternOptions) : Primitive → Option Expr
  | .char c byte => (literalClass? o c byte).map .one
  | .set c => some (.one c)
  | .assertion a => some (.assertion a)

/-- The class of `.`. -/
def dotClass? (o : PatternOptions) : Option CharClass :=
  complement? o <|
    if o.dotAll then .nothing
    else if o.carriageReturn then .ranges [('\n', '\n'), ('\r', '\r')]
    else .single '\n'

/-- The assertion that `^` stands for. -/
def startAssertion (o : PatternOptions) : Assertion :=
  if o.multiLine then .lineStart o.carriageReturn else .textStart

/-- The assertion that `$` stands for. -/
def endAssertion (o : PatternOptions) : Assertion :=
  if o.multiLine then .lineEnd o.carriageReturn else .textEnd

/-- Reads one part of a pattern, which begins with `c`. -/
def part? (r : Reader) (c : Char) (cs : List Char) : Option (Reader × List Char) :=
  let o := r.options
  match c with
  | '(' => group? r cs
  | ')' => r.closeGroup?.map fun r => (r, cs)
  | '|' => some ({ r with level := r.level.nextChoice }, cs)
  | '[' => (bracketClass? o cs).map fun (k, depth, rest) => (r.add (.one k) depth, rest)
  | '?' => (r.repeatLast? 0 (some 1)).map fun r => (r, dropLazy cs)
  | '*' => (r.repeatLast? 0 none).map fun r => (r, dropLazy cs)
  | '+' => (r.repeatLast? 1 none).map fun r => (r, dropLazy cs)
  | '\x7b' => do
    let (least, most, rest) ← repetitionBounds? o cs
    let r ← r.repeatLast? least most
    some (r, rest)
  | '.' => (dotClass? o).map fun k => (r.add (.one k) 0, cs)
  | '^' => some (r.add (.assertion (startAssertion o)) 0, cs)
  | '$' => some (r.add (.assertion (endAssertion o)) 0, cs)
  | '\\' => do
    let (p, rest) ← escape? o cs
    some (r.add (← primitiveExpr? o p) 0, rest)
  | c => (primitiveExpr? o (.char c false)).map fun e => (r.add e 0, cs)

/-- Reads the rest of a pattern.  Every round takes a character, so the number of characters
bounds the rounds. -/
def read? : Nat → Reader → List Char → Option Expr
  | 0, _, _ => none
  | fuel + 1, r, cs =>
    match skip r.options cs with
    | [] => r.finish?
    | c :: cs => do
      let (r, rest) ← part? r c cs
      read? fuel r rest

end PatternText

/-- The expression that a text writes under some options. -/
def Expr.ofText? (o : PatternOptions) (text : String) : Option Expr :=
  PatternText.read? (text.length + 1) (.start o) text.toList

end EnvMarkers
