import EnvMarkers.Marker.Assembly
import Mathlib.Tactic.SplitIfs

/-!
# Chains of operands

What is accepted by the assembly of items, apart from its reports and the reasons of rejections
(`Assembly.accepted`).  A sequence is read as a chain of operands and connectives by
`Assembly.operandChain`, which takes the markers of single operands from a function, so that it can
be compared with other ways to read a sequence.  Every sequence but a bare comparison is accepted
as that chain, whatever its length (`accepted_ofSequence`).
-/

namespace EnvMarkers.Assembly

/-! ### What is accepted -/

/-- The outcome of an assembly, if it is not rejected. -/
def accepted {α : Type} (a : Assembly α) : Option α :=
  a.run.value.toOption

@[simp] theorem accepted_pure {α : Type} (x : α) : accepted (pure x) = some x :=
  rfl

@[simp] theorem accepted_reject {α : Type} (fault : ShapeFault) :
    accepted (reject fault : Assembly α) = none :=
  rfl

/-- A sequence of steps is accepted if each of them is. -/
@[simp] theorem accepted_bind {α β : Type} (a : Assembly α) (f : α → Assembly β) :
    accepted (a >>= f) = (accepted a).bind fun x => accepted (f x) := by
  simp only [accepted, ExceptT.run_bind, Logged.value_bind]
  cases a.run.value <;> rfl

theorem accepted_eq_some {α : Type} {a : Assembly α} {x : α} :
    accepted a = some x ↔ a.run.value = .ok x := by
  rw [accepted]
  cases a.run.value with
  | error fault => exact ⟨nofun, nofun⟩
  | ok y => exact ⟨fun h => congrArg _ (Option.some.inj h), fun h => congrArg _ (Except.ok.inj h)⟩

/-- The marker of a single operand, if it is accepted. -/
def operand (depth : Nat) (item : Item) : Option Marker :=
  accepted (ofItem depth item)

theorem operand_keyword (depth : Nat) (op : Connective) : operand depth (.keyword op) = none := by
  rw [operand, ofItem]
  · rfl
  · intro _ h
    cases h

/-- A group that is not too deep is the operand that the sequence in it makes up. -/
theorem operand_group (depth : Nat) (items : List Item) :
    operand depth (.group items) =
      if depth < maxGroupDepth then accepted (ofSequence (depth + 1) items) else none := by
  rw [operand, ofItem_group]
  by_cases h : depth < maxGroupDepth
  · rw [if_neg (by omega), if_pos h]
  · rw [if_pos (by omega), if_neg h]
    rfl

/-! ### Chains -/

mutual

/-- The marker of a chain whose operands have the markers `v`, where an operand has to come next. -/
def operandChain (v : Item → Option Marker) (sum run : Option Marker) : List Item → Option Marker
  | [] => none
  | item :: rest => (v item).bind fun operand => connectiveChain v sum (joinRun run operand) rest

/-- The marker of a chain whose operands have the markers `v`, where a connective or the end has to
come next. -/
def connectiveChain (v : Item → Option Marker) (sum : Option Marker) (run : Marker) :
    List Item → Option Marker
  | [] => some (joinSum sum run)
  | .keyword .conj :: rest => operandChain v sum (some run) rest
  | .keyword .disj :: rest => operandChain v (some (joinSum sum run)) none rest
  | _ :: _ => none

end

mutual

/-- Chains are accepted by the markers of their operands. -/
theorem accepted_chainOperand (depth : Nat) (whole : List Item) (sum run : Option Marker)
    (items : List Item) : accepted (chainOperand depth whole sum run items) =
      operandChain (operand depth) sum run items := by
  cases items with
  | nil => rw [chainOperand, operandChain, accepted_reject]
  | cons item rest =>
    rw [operandChain]
    cases item with
    | keyword op => rw [chainOperand, accepted_reject, operand_keyword]; rfl
    | _ =>
      rw [chainOperand, accepted_bind, operand]
      · congr 1
        funext x
        exact accepted_chainConnective depth whole sum (joinRun run x) rest
      · exact fun _ h => nomatch h

theorem accepted_chainConnective (depth : Nat) (whole : List Item) (sum : Option Marker)
    (run : Marker) (items : List Item) :
    accepted (chainConnective depth whole sum run items) =
      connectiveChain (operand depth) sum run items := by
  cases items with
  | nil => rw [chainConnective, connectiveChain, accepted_pure]
  | cons item rest =>
    cases item with
    | keyword op =>
      cases op with
      | conj =>
        rw [chainConnective, connectiveChain]
        exact accepted_chainOperand depth whole sum (some run) rest
      | disj =>
        rw [chainConnective, connectiveChain]
        exact accepted_chainOperand depth whole (some (joinSum sum run)) none rest
    | _ => simp only [chainConnective, connectiveChain, accepted_reject]

end

/-- A chain does not end with a single item behind an operand. -/
theorem connectiveChain_singleton (v : Item → Option Marker) (sum : Option Marker) (run : Marker)
    (item : Item) : connectiveChain v sum run [item] = none := by
  cases item with
  | keyword op => cases op <;> rfl
  | _ => simp only [connectiveChain]

/-- The marker of a chain of at most two operands. -/
def shortChain (v : Item → Option Marker) : List Item → Option Marker
  | [item] => v item
  | [left, .keyword op, right] => (v left).bind fun l => (v right).bind fun r => some (.join op l r)
  | _ => none

/-- A sequence of at most three items is a chain of at most two operands, if any. -/
theorem operandChain_eq_shortChain (v : Item → Option Marker) {items : List Item}
    (h : items.length ≤ 3) : operandChain v none none items = shortChain v items := by
  match items with
  | [] => rfl
  | [item] =>
    rw [operandChain, shortChain]
    cases v item <;> rfl
  | [first, second] =>
    simp only [operandChain, connectiveChain_singleton, Option.bind_fun_none, shortChain]
  | [left, .keyword op, right] =>
    rw [operandChain, shortChain]
    cases op <;> rfl
  | [_, .name _, _] | [_, .value _, _] | [_, .operator _, _] | [_, .group _, _] =>
    simp only [operandChain, connectiveChain, Option.bind_fun_none, shortChain]
  | _ :: _ :: _ :: _ :: _ => exact absurd h (by simp)

/-- Every sequence is accepted as the chain that it is, unless it is a bare comparison; that short
sequences have rules of their own makes no difference. -/
theorem accepted_ofSequence (depth : Nat) {items : List Item}
    (h : ∀ lhs operator rhs, items ≠ [lhs, .operator operator, rhs]) :
    accepted (ofSequence depth items) = operandChain (operand depth) none none items := by
  rw [ofSequence]
  split_ifs with hlong
  · exact accepted_chainOperand depth items none none items
  -- The shapes of short sequences are those of short chains.
  rw [operandChain_eq_shortChain _ (by omega)]
  rcases items with _ | ⟨first, _ | ⟨second, _ | ⟨third, _ | ⟨fourth, rest⟩⟩⟩⟩
  · rfl
  · rfl
  · rw [ofShort, accepted_reject, shortChain]
    all_goals simp
  · cases second with
    | keyword op =>
      rw [ofShort, shortChain, accepted_bind]
      simp only [accepted_bind, accepted_pure, operand]
    | operator text => exact absurd rfl (h first text third)
    | _ =>
      rw [ofShort, accepted_reject, shortChain]
      all_goals simp
  · exact absurd (by simp) hlong

/-- A sequence that is a chain is accepted as that chain. -/
theorem accepted_ofSequence_of_chain {depth : Nat} {items : List Item} {m : Marker}
    (h : operandChain (operand depth) none none items = some m) :
    accepted (ofSequence depth items) = some m := by
  rw [accepted_ofSequence depth, h]
  rintro lhs operator rhs rfl
  -- The operator stands where a connective has to.
  simp only [operandChain, connectiveChain, Option.bind_fun_none] at h
  cases h

end EnvMarkers.Assembly
