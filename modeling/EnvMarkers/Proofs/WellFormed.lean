import EnvMarkers.Proofs.OperandKinds

/-!
# Well-formed sequences

A sequence of items is well-formed if it is a comparison of a variable and a value, or a chain: one
or more groups of well-formed sequences with connectives between them (`Item.WellFormed`).  The
assembly accepts exactly the well-formed sequences whose groups are not nested too deeply, and
single items exactly if they are groups of such sequences (`Marker.ofItems_eq_ok_iff_wellFormed`).

That what is accepted is well-formed is an induction on the groups in it; the other direction is one
on the way in which a sequence is well-formed.  How deep a sequence stands in groups makes no
difference to it, be it accepted or rejected, as long as there is room for the groups in it
(`Assembly.ofSequence_eq_of_room`).
-/

namespace EnvMarkers

namespace Item

/-- What the grammar of items has rules for. -/
inductive Part where
  /-- What may stand on one side of a connective. -/
  | operand
  /-- Operands with connectives between them. -/
  | chain
  /-- What may stand in a group. -/
  | sequence

/-- The grammar of items: `WellFormed part items` says that the items make up such a part of a
marker. -/
inductive WellFormed : Part → List Item → Prop
  /-- A sequence in a group. -/
  | group {items : List Item} (h : WellFormed .sequence items) : WellFormed .operand [.group items]
  /-- A single operand. -/
  | single {items : List Item} (h : WellFormed .operand items) : WellFormed .chain items
  /-- Another operand in front of a connective. -/
  | join {left right : List Item} (hleft : WellFormed .operand left) (op : Connective)
    (hright : WellFormed .chain right) : WellFormed .chain (left ++ .keyword op :: right)
  /-- A chain of any length. -/
  | chain {items : List Item} (h : WellFormed .chain items) : WellFormed .sequence items
  /-- A comparison that is in no group of its own. -/
  | comparison {t : Triple} (h : t.Fits) :
    WellFormed .sequence [t.lhs, .operator t.operator, t.rhs]

end Item

namespace Assembly

open Item

variable {v : Item → Option Marker} {items : List Item} {depth depth' : Nat}

/-! ### What is accepted is well-formed -/

/-- A chain whose operands are well-formed is well-formed. -/
theorem wellFormed_of_operandChain
    (hv : ∀ item ∈ items, ∀ x, v item = some x → WellFormed .operand [item]) (m : Marker) :
    (∀ sum run, operandChain v sum run items = some m → WellFormed .chain items) ∧
      ∀ sum run, connectiveChain v sum run items = some m →
        ∀ left, WellFormed .operand left → WellFormed .chain (left ++ items) := by
  induction items with
  | nil =>
    refine ⟨nofun, fun _ _ _ left hleft => ?_⟩
    rw [List.append_nil]
    exact .single hleft
  | cons item rest ih =>
    rw [List.forall_mem_cons] at hv
    obtain ⟨ihOperand, ihConnective⟩ := ih hv.2
    constructor
    · intro sum run h
      obtain ⟨x, hx, hrest⟩ := Option.bind_eq_some_iff.mp h
      exact ihConnective sum _ hrest [item] (hv.1 x hx)
    · intro sum run h left hleft
      cases item with
      | keyword op =>
        cases op with
        | conj => exact hleft.join .conj (ihOperand sum (some run) h)
        | disj => exact hleft.join .disj (ihOperand _ none h)
      | _ =>
        simp only [connectiveChain] at h
        cases h

theorem wellFormed_of_accepted {m : Marker} (h : accepted (ofSequence depth items) = some m) :
    WellFormed .sequence items := by
  have hgroup : WellFormed .operand [.group items] := by
    refine acceptedInduction (P := fun item _ => WellFormed .operand [item]) ?_ ?_ h
    · intro lhs operator rhs c hc
      have hfits : Triple.Fits ⟨lhs, operator, rhs⟩ := (Triple.fits_iff _).mpr ⟨c, hc⟩
      exact .group (.comparison hfits)
    · intro v items m _ hitems h
      exact .group (.chain ((wellFormed_of_operandChain hitems m).1 none none h))
  cases hgroup with
  | group h => exact h

/-- There is room for the groups of an accepted sequence. -/
theorem add_sequenceNesting_le_of_accepted (hdepth : depth ≤ maxGroupDepth) {m : Marker}
    (h : accepted (ofSequence depth items) = some m) :
    depth + sequenceNesting items ≤ maxGroupDepth := by
  rw [accepted_ofSequence_eq_some_iff hdepth fun item _ => operand_eq_some_iff hdepth item] at h
  exact h.2

/-! ### What is well-formed is accepted -/

/-- Whether items are accepted, inside `depth` groups, as such a part of a marker. -/
def Accepts (depth : Nat) (items : List Item) : Part → Prop
  | .operand => ∃ item m, items = [item] ∧ operand depth item = some m
  | .chain => ∀ sum run, ∃ m, operandChain (operand depth) sum run items = some m
  | .sequence => ∃ m, accepted (ofSequence depth items) = some m

/-- What is well-formed is accepted where there is room for the groups in it. -/
theorem accepts_of_wellFormed {part : Part} (h : WellFormed part items)
    (hroom : depth + sequenceNesting items ≤ maxGroupDepth) : Accepts depth items part := by
  induction h generalizing depth with
  | @group items h ih =>
    simp only [sequenceNesting, nesting] at hroom
    have hinner : depth + 1 + sequenceNesting items ≤ maxGroupDepth := by omega
    obtain ⟨m, hm⟩ := ih hinner
    refine ⟨.group items, m, rfl, ?_⟩
    rw [operand_group, if_pos (by omega), hm]
  | single h ih =>
    obtain ⟨item, m, rfl, hm⟩ := ih hroom
    intro sum run
    refine ⟨joinSum sum (joinRun run m), ?_⟩
    rw [operandChain, hm, Option.bind_some, connectiveChain]
  | @join left right hleft op hright ihleft ihright =>
    rw [sequenceNesting_join] at hroom
    have hleftRoom : depth + sequenceNesting left ≤ maxGroupDepth := by omega
    obtain ⟨item, x, rfl, hx⟩ := ihleft hleftRoom
    have hchain : ∀ sum run, ∃ m, operandChain (operand depth) sum run right = some m :=
      ihright (by omega)
    intro sum run
    rw [List.singleton_append, operandChain, hx, Option.bind_some]
    cases op with
    | conj => exact hchain sum _
    | disj => exact hchain _ none
  | chain h ih =>
    obtain ⟨m, hm⟩ := ih hroom none none
    exact ⟨m, accepted_ofSequence_of_chain hm⟩
  | @comparison t h =>
    obtain ⟨c, hc⟩ := t.fits_iff.mp h
    refine ⟨.comparison c, ?_⟩
    rw [accepted_ofSequence_comparison]
    exact congrArg (Option.map Marker.comparison) hc

/-! ### Depth -/

/-- A chain is assembled alike at two depths if its operands are. -/
theorem chain_congr (whole : List Item)
    (h : ∀ item ∈ items, ofItem depth item = ofItem depth' item) :
    (∀ sum run, chainOperand depth whole sum run items = chainOperand depth' whole sum run items) ∧
      ∀ sum run, chainConnective depth whole sum run items =
        chainConnective depth' whole sum run items := by
  induction items with
  | nil => exact ⟨fun _ _ => by rw [chainOperand, chainOperand],
      fun _ _ => by rw [chainConnective, chainConnective]⟩
  | cons item rest ih =>
    rw [List.forall_mem_cons] at h
    obtain ⟨ihOperand, ihConnective⟩ := ih h.2
    constructor
    · intro sum run
      cases item with
      | keyword op => rw [chainOperand, chainOperand]
      | _ => simp only [chainOperand, h.1, ihConnective]
    · intro sum run
      cases item with
      | keyword op =>
        cases op with
        | conj => rw [chainConnective, chainConnective, ihOperand]
        | disj => rw [chainConnective, chainConnective, ihOperand]
      | _ => simp only [chainConnective]

theorem ofSequence_congr (h : ∀ item ∈ items, ofItem depth item = ofItem depth' item) :
    ofSequence depth items = ofSequence depth' items := by
  unfold ofSequence
  split_ifs
  · exact (chain_congr items h).1 none none
  unfold ofShort
  split
  · rfl
  · exact h _ (List.mem_singleton_self _)
  · rw [h _ List.mem_cons_self,
      h _ (List.mem_cons_of_mem _ (List.mem_cons_of_mem _ List.mem_cons_self))]
  · rfl
  · rfl

/-- Where there is room for its groups, the depth makes no difference to an item. -/
theorem ofItem_eq_of_room {item : Item} (h : depth + item.nesting ≤ maxGroupDepth)
    (h' : depth' + item.nesting ≤ maxGroupDepth) : ofItem depth item = ofItem depth' item := by
  induction item using Item.groupInduction generalizing depth depth' with
  | group items ih =>
    rw [nesting] at h h'
    have hroom : ∀ item ∈ items, depth + 1 + item.nesting ≤ maxGroupDepth :=
      (add_sequenceNesting_le_iff (by omega) items).mp (by omega)
    have hroom' : ∀ item ∈ items, depth' + 1 + item.nesting ≤ maxGroupDepth :=
      (add_sequenceNesting_le_iff (by omega) items).mp (by omega)
    rw [ofItem_group, ofItem_group, if_neg (by omega), if_neg (by omega)]
    exact ofSequence_congr fun item hitem => ih item hitem (hroom item hitem) (hroom' item hitem)
  | other item hother =>
    rw [ofItem, ofItem]
    all_goals exact hother

theorem ofSequence_eq_of_room (h : depth + sequenceNesting items ≤ maxGroupDepth)
    (h' : depth' + sequenceNesting items ≤ maxGroupDepth) :
    ofSequence depth items = ofSequence depth' items := by
  have hroom := (add_sequenceNesting_le_iff (by omega) items).mp h
  have hroom' := (add_sequenceNesting_le_iff (by omega) items).mp h'
  exact ofSequence_congr fun item hitem => ofItem_eq_of_room (hroom item hitem) (hroom' item hitem)

end Assembly

namespace Marker

open Item Assembly

/-- A sequence of items is accepted exactly if it is well-formed and its groups are not nested too
deeply, and a single item exactly if it is a group of a well-formed sequence and they are not.  With
room for one more group, a sequence in a group has the same outcome as the sequence itself, be it
accepted or rejected, and the same is reported. -/
theorem ofItems_eq_ok_iff_wellFormed :
    (∀ items, (∃ m, (ofItems items).value = .ok m) ↔
      WellFormed .sequence items ∧ sequenceNesting items ≤ maxGroupDepth) ∧
    (∀ item, (∃ m, (ofItem item).value = .ok m) ↔
      ∃ items, item = .group items ∧ WellFormed .sequence items ∧ item.nesting ≤ maxGroupDepth) ∧
    ∀ items, sequenceNesting items < maxGroupDepth → ofItems [.group items] = ofItems items := by
  refine ⟨fun items => ?_, fun item => ?_, fun items hroom => ?_⟩
  · simp only [ofItems, ← accepted_eq_some]
    constructor
    · rintro ⟨m, hm⟩
      have hroom := add_sequenceNesting_le_of_accepted (Nat.zero_le _) hm
      exact ⟨wellFormed_of_accepted hm, by omega⟩
    · rintro ⟨h, hroom⟩
      exact accepts_of_wellFormed h (by omega)
  · show (∃ m, (Assembly.ofItem 0 item).run.value = .ok m) ↔ _
    simp only [← accepted_eq_some]
    constructor
    · rintro ⟨m, hm⟩
      have hroom := ((operand_eq_some_iff (Nat.zero_le _) item m).mp hm).2
      cases item with
      | group items =>
        have hinner := operand_group 0 items
        rw [operand, hm, if_pos (by decide)] at hinner
        exact ⟨items, rfl, wellFormed_of_accepted hinner.symm, by omega⟩
      | _ =>
        rw [Assembly.ofItem, accepted_reject] at hm
        · cases hm
        · intro _ h
          cases h
    · rintro ⟨items, rfl, h, hroom⟩
      have hnesting : 0 + sequenceNesting [.group items] ≤ maxGroupDepth := by
        simp only [sequenceNesting]
        omega
      obtain ⟨item, m, heq, hm⟩ := accepts_of_wellFormed h.group hnesting
      obtain rfl := List.singleton_inj.mp heq
      exact ⟨m, hm⟩
  · have hgroup : ofSequence 0 [.group items] = ofSequence 1 items := by
      rw [ofSequence, if_neg (by simp), ofShort, ofItem_group, if_neg (by decide)]
    rw [ofItems, ofItems, hgroup]
    exact congrArg _ (ofSequence_eq_of_room (by omega) (by omega))

/-- A chain with groups in groups is accepted; two values make no comparison, and are reported in
the same way if they stand in a group. -/
theorem ofItems_eq_ok_iff_wellFormed_values :
    let chain := [.group [.name "extra", .operator "==", .value "test"], .keyword .disj,
      .group [.group [.value "nt", .operator "in", .name "os_name"]]]
    let values := [Item.value "a", .operator "==", .value "b"]
    (∃ m, (ofItems chain).value = .ok m) ∧ sequenceNesting values < maxGroupDepth ∧
      ofItems [.group values] = ofItems values ∧
        (ofItems values).value = .error (.badOperands (.value "a") "==" (.value "b")) := by
  intro chain values
  have hextra : Triple.Fits ⟨.name "extra", "==", .value "test"⟩ :=
    .nameFirst "extra" .equal "test"
  have hsystem : Triple.Fits ⟨.value "nt", "in", .name "os_name"⟩ :=
    .valueFirst "nt" (c := .within) rfl "os_name"
  have hchain : WellFormed .sequence chain := .chain (.join (.group (.comparison hextra)) .disj
    (.single (.group (.chain (.single (.group (.comparison hsystem)))))))
  have hvalues : sequenceNesting values < maxGroupDepth := by
    simp [values, sequenceNesting, nesting, maxGroupDepth]
  obtain ⟨haccepted, -, hgroup⟩ := ofItems_eq_ok_iff_wellFormed
  refine ⟨(haccepted chain).mpr ⟨hchain, ?_⟩, hvalues, hgroup values hvalues, rfl⟩
  simp [chain, sequenceNesting, nesting, maxGroupDepth]

end Marker

end EnvMarkers
