import EnvMarkers.Json.Token

/-!
# JSON values

The values that JSON texts write, and how they are put together from tokens.  Objects keep all
their members in the order in which they are written, repeated names included.  The reader takes
one token at a time; a `Build` holds the arrays and objects that are open and what may come next.
-/

namespace EnvMarkers

/-- A JSON value. -/
inductive Json where
  /-- `null` -/
  | null
  /-- A truth value. -/
  | bool (b : Bool)
  /-- A number, as it is written. -/
  | number (text : String)
  /-- A string. -/
  | string (s : String)
  /-- An array. -/
  | array (items : List Json)
  /-- An object, with all members in the order in which they are written. -/
  | object (members : List (String × Json))
  deriving Repr, Inhabited

namespace Json

/-- How many arrays and objects may be open at once. -/
def maxDepth : Nat := 127

/-- An array or an object that is open. -/
inductive Open where
  /-- An array with its items so far, the latest first. -/
  | array (items : List Json)
  /-- An object with its members so far, the latest first, and the name whose value comes
  next. -/
  | object (members : List (String × Json)) (key : String)
  deriving Repr, Inhabited

/-- What the next token has to be. -/
inductive Expected where
  /-- A value. -/
  | value
  /-- A value, or the end of an array that has none yet. -/
  | firstItem
  /-- A name, or the end of an object that has none yet. -/
  | firstKey
  /-- A name. -/
  | key
  /-- The colon behind a name. -/
  | colon
  /-- A comma, or the end of what is open. -/
  | more
  /-- Nothing: the text is complete. -/
  | done (v : Json)
  deriving Repr, Inhabited

/-- The state of a reader of values. -/
structure Build where
  /-- The arrays and objects that are open, the innermost first. -/
  opened : List Open
  /-- What the next token has to be. -/
  expected : Expected
  deriving Repr, Inhabited

namespace Build

/-- A reader that has seen nothing. -/
def start : Build := ⟨[], .value⟩

/-- Puts a complete value where it belongs. -/
def complete (opened : List Open) (v : Json) : Build :=
  match opened with
  | [] => ⟨[], .done v⟩
  | .array items :: rest => ⟨.array (v :: items) :: rest, .more⟩
  | .object members key :: rest => ⟨.object ((key, v) :: members) key :: rest, .more⟩

/-- Opens an array or an object, if not too many are open. -/
def open? (opened : List Open) (inner : Open) (expected : Expected) : Option Build :=
  if opened.length < maxDepth then some ⟨inner :: opened, expected⟩ else none

/-- Reads the first token of a value. -/
def value? (opened : List Open) : JsonToken → Option Build
  | .null => some (complete opened .null)
  | .bool b => some (complete opened (.bool b))
  | .number text => some (complete opened (.number text))
  | .string s => some (complete opened (.string s))
  | .openBracket => open? opened (.array []) .firstItem
  | .openBrace => open? opened (.object [] "") .firstKey
  | _ => none

/-- Closes what was opened last. -/
def close? (opened : List Open) : JsonToken → Option Build
  | .closeBracket =>
    match opened with
    | .array items :: rest => some (complete rest (.array items.reverse))
    | _ => none
  | .closeBrace =>
    match opened with
    | .object members _ :: rest => some (complete rest (.object members.reverse))
    | _ => none
  | _ => none

/-- Reads a name. -/
def key? (opened : List Open) : JsonToken → Option Build
  | .string key =>
    match opened with
    | .object members _ :: rest => some ⟨.object members key :: rest, .colon⟩
    | _ => none
  | _ => none

/-- Reads one token. -/
def step? (b : Build) (t : JsonToken) : Option Build :=
  match b.expected with
  | .value => value? b.opened t
  | .firstItem => if t = .closeBracket then close? b.opened t else value? b.opened t
  | .firstKey => if t = .closeBrace then close? b.opened t else key? b.opened t
  | .key => key? b.opened t
  | .colon => if t = .colon then some ⟨b.opened, .value⟩ else none
  | .more =>
    if t = .comma then
      match b.opened with
      | .array _ :: _ => some ⟨b.opened, .value⟩
      | .object _ _ :: _ => some ⟨b.opened, .key⟩
      | [] => none
    else close? b.opened t
  | .done _ => none

/-- The value that has been read, if it is complete. -/
def finish? (b : Build) : Option Json :=
  match b.expected with
  | .done v => some v
  | _ => none

end Build

/-- The value that a sequence of tokens writes. -/
def ofTokens? (ts : List JsonToken) : Option Json := do
  let last ← ts.foldlM Build.step? Build.start
  last.finish?

/-- The value that a text writes. -/
def ofText? (text : String) : Option Json := do
  let ts ← JsonToken.scan? text.toList
  ofTokens? ts

end Json

end EnvMarkers
