import EnvMarkers.Proofs.Chain
import EnvMarkers.Proofs.Collapse

/-!
# Chains that are collapsed

A collapse does not change the marker of a chain, as long as the group that it makes has the marker
of the join that it is (`Assembly.Joins`).  At the first `and` this is so wherever a conjunction
begins (`Assembly.operandChain_collapseFirst_conj`), at the first `or` only when there is no `and`
any more (`Assembly.operandChain_collapseFirst_disj`), and where a connective cannot be collapsed
there is no chain (`Assembly.operandChain_of_collapseFirst_eq_none`).  So a chain has the marker of
the single operand that collapsing leaves of it (`Assembly.operandChain_collapse`).
-/

namespace EnvMarkers.Assembly

variable {v : Item → Option Marker}

/-- Whether the markers of items are those of operands: a connective has none, and a group of two
items and the connective between them has that of the join. -/
structure Joins (v : Item → Option Marker) : Prop where
  /-- A connective is no operand. -/
  keyword (op : Connective) : v (.keyword op) = none
  /-- A join in a group is an operand. -/
  group (left : Item) (op : Connective) (right : Item) : v (.group [left, .keyword op, right]) =
    (v left).bind fun l => (v right).bind fun r => some (.join op l r)

/-- A connective cannot stand where an operand has to come. -/
theorem Joins.operandChain_keyword (hv : Joins v) (sum run : Option Marker) (op : Connective)
    (rest : List Item) : operandChain v sum run (.keyword op :: rest) = none := by
  rw [operandChain, hv.keyword]
  rfl

/-- An operand cannot follow another one. -/
theorem connectiveChain_of_connective?_eq_none {sum : Option Marker} {run : Marker} {item : Item}
    (h : item.connective? = none) (rest : List Item) :
    connectiveChain v sum run (item :: rest) = none := by
  cases item with
  | keyword op => cases h
  | _ => simp only [connectiveChain]

/-- A collapse at the first `and` does not change the marker of a chain, neither where an operand
begins a conjunction nor where a connective has to come. -/
theorem operandChain_collapseFirst_conj (hv : Joins v) {items items' : List Item}
    (h : Item.collapseFirst .conj items = some items') :
    (∀ sum, operandChain v sum none items = operandChain v sum none items') ∧
      ∀ sum run, connectiveChain v sum run items = connectiveChain v sum run items' := by
  -- The walk to the first `and` goes from operand to connective and back, so the two statements
  -- are proved together.
  fun_induction Item.collapseFirst .conj items generalizing items' with
  | case1 first second rest hfirst => cases h
  | case2 first second hfirst hsecond => cases h
  | case3 first second hfirst hsecond third rest =>
    obtain rfl := Option.some.inj h
    obtain rfl := Item.eq_keyword_of_connective? hsecond
    constructor
    · -- The pass joins the two operands as the group does, and goes on behind them.
      intro sum
      simp only [operandChain, connectiveChain, joinRun, hv.group, Option.bind_assoc,
        Option.bind_some]
    · -- Neither a group nor an `or` in front of an `and` goes on with a chain.
      intro sum run
      have hgroup : ∀ items, connectiveChain v sum run (.group items :: rest) = none :=
        fun _ => connectiveChain_of_connective?_eq_none rfl rest
      rw [hgroup]
      cases first with
      | keyword op =>
        cases op with
        | conj => exact absurd rfl hfirst
        | disj => rw [connectiveChain, hv.operandChain_keyword]
      | _ => simp only [connectiveChain]
  | case4 first second rest hfirst hsecond ih =>
    obtain ⟨tail, htail, rfl⟩ := Option.map_eq_some_iff.mp h
    obtain ⟨ihOperand, ihConnective⟩ := ih htail
    constructor
    · intro sum
      simp only [operandChain, ihConnective]
    · intro sum run
      cases first with
      | keyword op =>
        cases op with
        | conj => exact absurd rfl hfirst
        | disj => simp only [connectiveChain, ihOperand]
      | _ => simp only [connectiveChain]
  | case5 items hitems => cases h

/-- Without an `and` behind it, a marker may be joined to the disjunction before it at once. -/
theorem connectiveChain_join_disj {rest : List Item} (hconj : .keyword .conj ∉ rest)
    (l r : Marker) :
    connectiveChain v (some l) r rest = connectiveChain v none (.join .disj l r) rest := by
  cases rest with
  | nil => rfl
  | cons item rest =>
    cases item with
    | keyword op =>
      cases op with
      | conj => exact absurd List.mem_cons_self hconj
      | disj =>
        rw [connectiveChain, connectiveChain]
        rfl
    | _ => simp only [connectiveChain]

/-- Where there is no `and`, a collapse at the first `or` does not change the marker of a chain. -/
theorem operandChain_collapseFirst_disj (hv : Joins v) {items items' : List Item}
    (hconj : .keyword .conj ∉ items) (h : Item.collapseFirst .disj items = some items') :
    operandChain v none none items = operandChain v none none items' := by
  match items with
  | [] => cases h
  | [item] => cases h
  | first :: second :: rest =>
    simp only [List.mem_cons, not_or] at hconj
    unfold Item.collapseFirst at h
    split_ifs at h with hfirst hsecond
    · obtain rfl := Item.eq_keyword_of_connective? hsecond
      cases rest with
      | nil => cases h
      | cons third rest =>
        obtain rfl := Option.some.inj h
        -- The pass takes the right side for a conjunction that may go on, which it does not.
        have hrest : .keyword .conj ∉ rest := fun hmem => hconj.2.2 (List.mem_cons_of_mem _ hmem)
        simp only [operandChain, connectiveChain, joinRun, joinSum, hv.group, Option.bind_assoc,
          Option.bind_some, connectiveChain_join_disj hrest]
    · -- Behind the first item there is no connective, before the collapse and after it.
      have hsecondNone : second.connective? = none := by
        cases second with
        | keyword op =>
          cases op with
          | conj => exact absurd rfl hconj.2.1
          | disj => exact absurd rfl hsecond
        | _ => rfl
      obtain ⟨tail, htail, rfl⟩ := Option.map_eq_some_iff.mp h
      obtain ⟨head, tail, rfl, hhead⟩ := Item.collapseFirst_head htail
      have hheadNone : head.connective? = none := by
        rcases hhead with rfl | ⟨inner, rfl⟩
        · exact hsecondNone
        · rfl
      simp only [operandChain, connectiveChain_of_connective?_eq_none hsecondNone,
        connectiveChain_of_connective?_eq_none hheadNone]

/-- If no chain goes on behind an item, none goes on at it. -/
theorem connectiveChain_eq_none {rest : List Item}
    (h : ∀ sum run, operandChain v sum run rest = none) (sum : Option Marker) (run : Marker)
    (item : Item) : connectiveChain v sum run (item :: rest) = none := by
  cases item with
  | keyword op =>
    cases op with
    | conj => rw [connectiveChain, h]
    | disj => rw [connectiveChain, h]
  | _ => simp only [connectiveChain]

/-- A sequence with a connective that cannot be collapsed is not a chain, nor does a chain go on
with it, unless it begins with that connective. -/
theorem operandChain_of_collapseFirst_eq_none (hv : Joins v) {op : Connective} {items : List Item}
    (h : Item.collapseFirst op items = none) (hmem : .keyword op ∈ items) :
    (∀ sum run, operandChain v sum run items = none) ∧
      (items.head?.bind Item.connective? ≠ some op →
        ∀ sum run, connectiveChain v sum run items = none) := by
  -- As the search for the connective goes on, operands and connectives take turns.
  fun_induction Item.collapseFirst op items with
  | case1 first second rest hfirst =>
    obtain rfl := Item.eq_keyword_of_connective? hfirst
    exact ⟨fun sum run => hv.operandChain_keyword sum run op _, fun hne => absurd rfl hne⟩
  | case2 first second hfirst hsecond =>
    obtain rfl := Item.eq_keyword_of_connective? hsecond
    constructor
    · -- Behind the connective there is no operand.
      intro sum run
      have hlast : ∀ sum run, connectiveChain v sum run [.keyword op] = none :=
        fun sum run => connectiveChain_eq_none (fun _ _ => rfl) sum run _
      simp only [operandChain, hlast, Option.bind_fun_none]
    · intro _ sum run
      exact connectiveChain_eq_none (fun sum run => hv.operandChain_keyword sum run op _) sum run _
  | case3 first second hfirst hsecond third rest => cases h
  | case4 first second rest hfirst hsecond ih =>
    have hrest : .keyword op ∈ second :: rest := by
      rcases List.mem_cons.mp hmem with rfl | hrest
      · exact absurd rfl hfirst
      · exact hrest
    obtain ⟨ihOperand, ihConnective⟩ := ih (Option.map_eq_none_iff.mp h) hrest
    constructor
    · intro sum run
      simp only [operandChain, ihConnective hsecond, Option.bind_fun_none]
    · intro _ sum run
      exact connectiveChain_eq_none ihOperand sum run first
  | case5 items hitems =>
    rcases items with _ | ⟨first, _ | ⟨second, rest⟩⟩
    · cases hmem
    · obtain rfl := List.mem_singleton.mp hmem
      exact ⟨fun sum run => hv.operandChain_keyword sum run op _, fun hne => absurd rfl hne⟩
    · exact (hitems first second rest rfl).elim

/-- Collapsing at a connective does not change the marker of a chain, and fails only if it has
none.  It is the turn of `or` when there is no `and` any more. -/
theorem operandChain_collapseAll (hv : Joins v) {op : Connective} {items : List Item}
    (hop : op = .conj ∨ .keyword .conj ∉ items) :
    operandChain v none none items =
      (Item.collapseAll op items).bind (operandChain v none none) := by
  fun_induction Item.collapseAll op items with
  | case1 items hmem hnone =>
    have hmem' : .keyword op ∈ items := Item.any_connective?_iff.mp hmem
    exact (operandChain_of_collapseFirst_eq_none hv hnone hmem').1 none none
  | case2 items hmem next hnext hlength ih =>
    rcases hop with rfl | hconj
    · rw [(operandChain_collapseFirst_conj hv hnext).1 none]
      exact ih (.inl rfl)
    · -- A collapse does not bring an `and` back.
      have hconj' : .keyword .conj ∉ next := by
        intro hmem'
        rcases (Item.mem_collapseFirst hnext).2 _ hmem' with hmem' | ⟨inner, hinner⟩
        · exact hconj hmem'
        · cases hinner
      cases op with
      | conj => exact absurd (Item.any_connective?_iff.mp hmem) hconj
      | disj =>
        rw [operandChain_collapseFirst_disj hv hconj hnext]
        exact ih (.inr hconj')
  | case3 items hmem => rfl

/-- The marker of a sequence that is a single operand. -/
def sole (v : Item → Option Marker) : List Item → Option Marker
  | [item] => v item
  | _ => none

/-- Without connectives, only a single operand is a chain. -/
theorem operandChain_eq_sole {items : List Item} (h : ∀ op, .keyword op ∉ items) :
    operandChain v none none items = sole v items := by
  match items with
  | [] => rfl
  | [item] =>
    rw [operandChain, sole]
    cases v item <;> rfl
  | first :: second :: rest =>
    have hsecond : second.connective? = none := by
      cases second with
      | keyword op => exact absurd (List.mem_cons_of_mem _ List.mem_cons_self) (h op)
      | _ => rfl
    simp only [operandChain, connectiveChain_of_connective?_eq_none hsecond,
      Option.bind_fun_none, sole]

/-- A chain has the marker of the single operand that collapsing leaves of it. -/
theorem operandChain_collapse (hv : Joins v) (items : List Item) :
    operandChain v none none items = (Item.collapse items).bind (sole v) := by
  rw [operandChain_collapseAll hv (.inl rfl), Item.collapse, Option.bind_assoc]
  cases hconj : Item.collapseAll .conj items with
  | none => rfl
  | some between =>
    have hnotConj := (Item.mem_collapseAll hconj).1
    rw [Option.bind_some, Option.bind_some, operandChain_collapseAll hv (.inr hnotConj)]
    cases hdisj : Item.collapseAll .disj between with
    | none => rfl
    | some items' =>
      have hcollapse : Item.collapse items = some items' := by
        rw [Item.collapse, hconj, Option.bind_some, hdisj]
      rw [Option.bind_some, Option.bind_some,
        operandChain_eq_sole (Item.mem_collapse hcollapse).1]

end EnvMarkers.Assembly
