import EnvMarkers.Environment.Candidate
import Std.Data.TreeMap

/-!
# Environments

An environment binds names to lists of candidates.  A name that is bound to an empty list is
bound all the same; a name that is not bound at all is free.
-/

namespace EnvMarkers

/-- The candidates of each bound name. -/
structure Environment where
  /-- The bindings, ordered by name. -/
  bindings : Std.TreeMap String (List Candidate)

namespace Environment

/-- The environment in which every name is free. -/
def empty : Environment := ⟨∅⟩

instance : Inhabited Environment := ⟨empty⟩

/-- The candidates of a name, if it is bound. -/
def get? (env : Environment) (key : String) : Option (List Candidate) :=
  env.bindings[key]?

/-- Whether a name is bound. -/
def contains (env : Environment) (key : String) : Bool :=
  env.bindings.contains key

/-- Binds a name to a list of candidates, in place of those it had. -/
def insert (env : Environment) (key : String) (candidates : List Candidate) : Environment :=
  ⟨env.bindings.insert key candidates⟩

/-- Adds a candidate behind those of a name; a free name becomes bound to it alone. -/
def push (env : Environment) (key : String) (candidate : Candidate) : Environment :=
  env.insert key ((env.get? key).getD [] ++ [candidate])

/-- Makes a name free. -/
def erase (env : Environment) (key : String) : Environment :=
  ⟨env.bindings.erase key⟩

/-- Makes a name free and gives back the candidates it was bound to. -/
def remove (env : Environment) (key : String) : Option (List Candidate) × Environment :=
  (env.get? key, env.erase key)

/-- The environment of a list of bindings, in which a later one takes the place of an earlier one
of the same name. -/
def ofList (bindings : List (String × List Candidate)) : Environment :=
  bindings.foldl (fun env (key, candidates) => env.insert key candidates) empty

/-- The bound names, in order. -/
def keys (env : Environment) : List String :=
  env.bindings.keys

/-- The bindings, ordered by name. -/
def toList (env : Environment) : List (String × List Candidate) :=
  env.bindings.toList

/-- The number of bound names. -/
def size (env : Environment) : Nat :=
  env.bindings.size

/-- Whether no name is bound. -/
def isEmpty (env : Environment) : Bool :=
  env.bindings.isEmpty

/-! ### What each operation does to `get?` -/

@[simp] theorem get?_empty (key : String) : empty.get? key = none := by
  simp [empty, get?]

theorem get?_insert (env : Environment) (key other : String) (candidates : List Candidate) :
    (env.insert key candidates).get? other =
      if other = key then some candidates else env.get? other := by
  simp only [insert, get?, Std.TreeMap.getElem?_insert, Std.LawfulEqCmp.compare_eq_iff_eq]
  simp only [eq_comm]

theorem get?_push (env : Environment) (key other : String) (candidate : Candidate) :
    (env.push key candidate).get? other =
      if other = key then some ((env.get? key).getD [] ++ [candidate]) else env.get? other :=
  get?_insert ..

theorem get?_erase (env : Environment) (key other : String) :
    (env.erase key).get? other = if other = key then none else env.get? other := by
  simp only [erase, get?, Std.TreeMap.getElem?_erase, Std.LawfulEqCmp.compare_eq_iff_eq]
  simp only [eq_comm]

/-- A name is bound exactly if it has a list of candidates. -/
theorem contains_eq_isSome (env : Environment) (key : String) :
    env.contains key = (env.get? key).isSome := by
  simp [contains, get?]

end Environment

end EnvMarkers
