import EnvMarkers.Proofs.DerivedItems
import EnvMarkers.Proofs.ItemComparisons

/-!
# The kinds of operands

Once a text has been split into items, only the kinds of the two sides of a comparison are left to
go wrong: a comparison is of a variable with a value or, as a membership test, of a value with a
variable (`Item.Triple.Fits`).  The first one in the text that is neither is what is rejected
(`Marker.ofItems_eq_error_iff_of_ofText`).  All other ways to reject items are for items that no
text has.

What is rejected in a chain is the first thing that is rejected in its operands
(`Assembly.ReportsFirst`).  So the derivation of the items of a text is followed, where every
operator is a comparator and groups are never too deep.
-/

namespace EnvMarkers

/-! ### Comparisons that fit -/

/-- The comparator of a comparison is what its operator writes. -/
theorem Comparison.ofItems?_operator {lhs rhs : Item} {operator : String} {c : Comparison}
    (h : Comparison.ofItems? lhs operator rhs = some c) : c.comparator.text = operator := by
  unfold Comparison.ofItems? at h
  split at h
  · next hcomparator =>
    obtain rfl := Option.some.inj h
    exact Comparator.ofText?_eq_some.mp hcomparator
  · next hcomparator =>
    split_ifs at h
    obtain rfl := Option.some.inj h
    exact Comparator.ofText?_eq_some.mp hcomparator
  · cases h

namespace Item.Triple

/-- Whether three items are a variable, a comparator and a value, or a value, a membership test and
a variable. -/
inductive Fits : Triple → Prop
  /-- A variable stands on the left. -/
  | nameFirst (key : String) (c : Comparator) (text : String) :
    Fits ⟨.name key, c.text, .value text⟩
  /-- A value stands on the left of a membership test. -/
  | valueFirst (text : String) {c : Comparator} (h : c.isMembership = true) (key : String) :
    Fits ⟨.value text, c.text, .name key⟩

/-- The text of three items, one after another. -/
def text (t : Triple) : String :=
  sequenceText [t.lhs, .operator t.operator, t.rhs]

/-- The fault of a comparison whose sides are not of the kinds that it needs. -/
def fault (t : Triple) : ShapeFault :=
  .badOperands t.lhs t.operator t.rhs

theorem message_fault (t : Triple) :
    (MarkerFault.shape t.fault).message =
      "Comparison needs a variable and a quoted value: " ++ t.text := by
  have hfragment : t.fault.fragment = t.text := by
    simp only [fault, ShapeFault.fragment, text, sequenceText, Item.text, String.append_assoc]
  have hreason : t.fault.reason ++ ": " = "Comparison needs a variable and a quoted value: " := by
    simp only [fault, ShapeFault.reason, String.reduceAppend]
  show t.fault.reason ++ ": " ++ t.fault.fragment = _
  rw [hfragment, hreason]

theorem fits_iff (t : Triple) : t.Fits ↔ ∃ c, t.comparison? = some c := by
  constructor
  · intro h
    cases h with
    | nameFirst key c text =>
      refine ⟨⟨key, c, text⟩, ?_⟩
      simp only [comparison?, Comparison.ofItems?, Comparator.ofText?_text]
    | @valueFirst text c h key =>
      refine ⟨⟨text, c, key⟩, ?_⟩
      simp only [comparison?, Comparison.ofItems?, Comparator.ofText?_text, h, if_true]
  · obtain ⟨lhs, operator, rhs⟩ := t
    rintro ⟨c, hc⟩
    obtain rfl := Comparison.ofItems?_operator hc
    rcases Comparison.ofItems?_sides hc with ⟨rfl, rfl⟩ | ⟨hmembership, rfl, rfl⟩
    · exact .nameFirst _ _ _
    · exact .valueFirst _ hmembership _

/-- The fault of a comparison, unless it fits. -/
def fault? (t : Triple) : Option ShapeFault :=
  match t.comparison? with
  | some _ => none
  | none => some t.fault

theorem fault?_eq_none {t : Triple} : t.fault? = none ↔ t.Fits := by
  rw [fits_iff, fault?]
  cases t.comparison? <;> simp

theorem fault?_eq_some {t : Triple} {f : ShapeFault} :
    t.fault? = some f ↔ ¬ t.Fits ∧ f = t.fault := by
  rw [← fault?_eq_none, fault?]
  cases t.comparison? <;> simp [eq_comm]

end Item.Triple

namespace Assembly

open Item

/-! ### What is rejected -/

/-- What is rejected in an assembly, if something is. -/
def rejected {α : Type} (a : Assembly α) : Option ShapeFault :=
  match a.run.value with
  | .ok _ => none
  | .error fault => some fault

variable {α β : Type}

@[simp] theorem rejected_pure (x : α) : rejected (pure x) = none :=
  rfl

@[simp] theorem rejected_reject (fault : ShapeFault) :
    rejected (reject fault : Assembly α) = some fault :=
  rfl

theorem rejected_eq_some {a : Assembly α} {fault : ShapeFault} :
    rejected a = some fault ↔ a.run.value = .error fault := by
  rw [rejected]
  cases a.run.value <;> simp

/-- In two steps the first of them is rejected, or else the second if it is whatever the outcome of
the first. -/
theorem rejected_bind (a : Assembly α) {f : α → Assembly β} {later : Option ShapeFault}
    (h : ∀ x, rejected (f x) = later) : rejected (a >>= f) = (rejected a).or later := by
  simp only [rejected, ExceptT.run_bind, Logged.value_bind] at h ⊢
  cases a.run.value with
  | error fault => rfl
  | ok x => exact h x

/-- In a comparison under a comparator only the sides can be rejected. -/
theorem rejected_comparison (lhs rhs : Item) (c : Comparator) :
    rejected (comparison lhs c.text rhs) = Triple.fault? ⟨lhs, c.text, rhs⟩ := by
  simp only [comparison, Triple.fault?, Triple.comparison?, Comparison.ofItems?,
    Comparator.ofText?_text]
  cases lhs with
  | name key => cases rhs <;> rfl
  | value text =>
    cases rhs with
    | name key => cases hmembership : c.isMembership <;> simp [hmembership, Triple.fault]
    | _ => rfl
  | _ => rfl

/-- Whether what is rejected in `items`, where a chain goes on with them, is the first misfit among
the comparisons in them, and without a misfit what is rejected in the rest of the chain. -/
def ReportsFirst (depth : Nat) (items : List Item) : Prop :=
  ∀ whole rest later, (∀ sum run, rejected (chainConnective depth whole sum run rest) = later) →
    ∀ sum run, rejected (chainOperand depth whole sum run (items ++ rest)) =
      ((items.flatMap triples).findSome? Triple.fault?).or later

theorem ReportsFirst.group {depth : Nat} {items : List Item}
    (h : rejected (ofItem depth (.group items)) =
      (sequenceTriples items).findSome? Triple.fault?) : ReportsFirst depth [.group items] := by
  intro whole rest later hrest sum run
  rw [List.singleton_append, chainOperand_group,
    rejected_bind _ fun x => hrest sum (joinRun run x), h, List.flatMap_singleton, sequenceTriples]

theorem ReportsFirst.join {depth : Nat} {left right : List Item} (hleft : ReportsFirst depth left)
    (op : Connective) (hright : ReportsFirst depth right) :
    ReportsFirst depth (left ++ .keyword op :: right) := by
  intro whole rest later hrest sum run
  have hop : ∀ sum run, rejected (chainConnective depth whole sum run
      (.keyword op :: (right ++ rest))) =
        ((right.flatMap triples).findSome? Triple.fault?).or later := by
    intro sum run
    cases op with
    | conj => exact hright whole rest later hrest sum (some run)
    | disj => exact hright whole rest later hrest (some (joinSum sum run)) none
  have hkeyword : (Item.keyword op).triples = [] := by simp [triples]
  have htriples : (left ++ .keyword op :: right).flatMap triples =
      left.flatMap triples ++ right.flatMap triples := by
    rw [List.flatMap_append, List.flatMap_cons, hkeyword, List.nil_append]
  rw [htriples, List.findSome?_append, Option.or_assoc, List.append_assoc, List.cons_append]
  exact hleft whole _ _ hop sum run

/-- What is rejected in a whole chain is the first misfit in it. -/
theorem ReportsFirst.rejected_chainOperand {depth : Nat} {items : List Item}
    (h : ReportsFirst depth items) (whole : List Item) :
    rejected (chainOperand depth whole none none items) =
      (items.flatMap triples).findSome? Triple.fault? := by
  have hend : ∀ sum run, rejected (chainConnective depth whole sum run []) = none := by
    intro sum run
    rw [chainConnective, rejected_pure]
  have hwhole := h whole [] none hend none none
  rwa [List.append_nil, Option.or_none] at hwhole

end Assembly

/-! ### Derived sequences -/

open Lexeme Assembly Item

/-- The symbols that are read from a text are comparators, and so are the words. -/
theorem Lexeme.IsComparator.exists_text {ls : List Lexeme} {operator : String}
    (h : IsComparator ls operator) (hls : ∀ s, .symbol s ∈ ls → s ∈ symbols) :
    ∃ c : Comparator, c.text = operator := by
  have hall : ∀ s ∈ symbols, ∃ c ∈ Comparator.all, c.text = s := by decide
  cases h with
  | symbol =>
    obtain ⟨c, -, hc⟩ := hall operator (hls operator (List.mem_singleton_self _))
    exact ⟨c, hc⟩
  | within => exact ⟨.within, rfl⟩
  | notWithin => exact ⟨.notWithin, rfl⟩

/-- Where symbols are comparators, a derived sequence reports its first misfit. -/
theorem Lexeme.Derives.reportsFirst {phrase : Phrase} {depth : Nat} {ls : List Lexeme}
    {items : List Item} (h : Derives maxParenDepth phrase depth ls items)
    (hls : ∀ s, .symbol s ∈ ls → s ∈ symbols) (hdepth : depth ≤ maxParenDepth) :
    ReportsFirst depth items := by
  have hroom : ∀ {depth}, depth ≤ maxParenDepth → ¬ depth ≥ maxGroupDepth := by
    intro depth h
    rw [maxParenDepth] at h
    rw [maxGroupDepth]
    omega
  induction h with
  | @comparison depth left right cs lhs rhs operator hleft hcs hright =>
    obtain ⟨c, rfl⟩ := hcs.exists_text fun s hs =>
      hls s (List.mem_append_right _ (List.mem_append_left _ hs))
    apply ReportsFirst.group
    rw [ofItem_group, if_neg (hroom hdepth), ofSequence, if_neg (by simp), ofShort,
      rejected_comparison, sequenceTriples, triples, List.findSome?_singleton]
  | @paren depth ls items hlt h ih =>
    have hinner := ih (fun s hs => hls s (by simp [hs])) hlt
    apply ReportsFirst.group
    rw [ofItem_group, if_neg (hroom hdepth), h.ofSequence_eq, hinner.rejected_chainOperand,
      sequenceTriples_of_chain h.ne_comparison]
  | single h ih => exact ih hls hdepth
  | join hleft op hright ihleft ihright =>
    exact .join (ihleft (fun s hs => hls s (by simp [hs])) hdepth) op
      (ihright (fun s hs => hls s (by simp [hs])) hdepth)

/-! ### Items of texts -/

namespace Marker

/-- What is rejected in the items of a text is the first misfit in them. -/
theorem rejected_ofSequence {s : String} {items : List Item} (h : Item.ofText s = .ok items) :
    rejected (ofSequence 0 items) = (sequenceTriples items).findSome? Triple.fault? := by
  obtain ⟨ls, hlayout, hderives⟩ := Item.ofText_eq_ok_iff_derives.mp h
  have hsymbols : ∀ s, .symbol s ∈ ls → s ∈ symbols := by
    intro s hs
    obtain ⟨cs, hcs⟩ := hlayout.exists_spells _ hs
    cases hcs with
    | symbol hs => exact hs
  rw [hderives.ofSequence_eq, sequenceTriples_of_chain hderives.ne_comparison]
  exact (hderives.reportsFirst hsymbols (Nat.zero_le _)).rejected_chainOperand items

theorem parse_eq_error_iff {s : String} {items : List Item} (h : Item.ofText s = .ok items)
    {fault : MarkerFault} : (Marker.parse s).value = .error fault ↔
      ∃ f, (ofItems items).value = .error f ∧ fault = .shape f := by
  rw [Marker.parse, h]
  show (ofItems items).value.mapError _ = _ ↔ _
  cases (ofItems items).value with
  | error f => simp [Except.mapError, eq_comm]
  | ok m => simp [Except.mapError]

/-- The items of a text are rejected exactly if one of the comparisons in them is neither of a
variable with a value nor, under a membership test, of a value with a variable.  What is reported is
the first such comparison in the text, and nothing else is ever wrong with the items of a text. -/
theorem ofItems_eq_error_iff_of_ofText {s : String} {items : List Item}
    (h : Item.ofText s = .ok items) :
    ((∃ fault, (ofItems items).value = .error fault) ↔ ∃ t ∈ sequenceTriples items, ¬ t.Fits) ∧
      (∀ before t after, sequenceTriples items = before ++ t :: after →
        (∀ u ∈ before, u.Fits) → ¬ t.Fits →
          (ofItems items).value = .error t.fault ∧
            (Marker.parse s).value = .error (.shape t.fault) ∧
              (MarkerFault.shape t.fault).message =
                "Comparison needs a variable and a quoted value: " ++ t.text) ∧
      ∀ fault, (Marker.parse s).value = .error fault →
        ∃ t ∈ sequenceTriples items, ¬ t.Fits ∧ fault = .shape t.fault := by
  have hfault : ∀ fault, (ofItems items).value = .error fault ↔
      ∃ before t after, sequenceTriples items = before ++ t :: after ∧
        (¬ t.Fits ∧ fault = t.fault) ∧ ∀ u ∈ before, u.Fits := by
    intro fault
    simp only [ofItems, ← rejected_eq_some, rejected_ofSequence h, List.findSome?_eq_some_iff,
      Triple.fault?_eq_some, Triple.fault?_eq_none]
  refine ⟨?_, ?_, ?_⟩
  · simp only [ofItems, ← rejected_eq_some, rejected_ofSequence h, ← Option.isSome_iff_exists,
      List.findSome?_isSome_iff]
    simp only [Option.isSome_iff_exists, Triple.fault?_eq_some, exists_and_left, exists_eq,
      and_true]
  · intro before t after hsplit hbefore ht
    have herror := (hfault t.fault).mpr ⟨before, t, after, hsplit, ⟨ht, rfl⟩, hbefore⟩
    exact ⟨herror, (parse_eq_error_iff h).mpr ⟨_, herror, rfl⟩, t.message_fault⟩
  · intro fault herror
    obtain ⟨f, hf, rfl⟩ := (parse_eq_error_iff h).mp herror
    obtain ⟨before, t, after, hsplit, ⟨ht, rfl⟩, -⟩ := (hfault f).mp hf
    exact ⟨t, hsplit ▸ List.mem_append_right _ List.mem_cons_self, ht, rfl⟩

/-- Of several comparisons that do not fit, the one that is written first is reported, although it
stands in parentheses. -/
theorem ofItems_eq_error_nested :
    let s := "os_name == 'nt' or ('a' == 'b' and extra == os_name) or 'c' < extra"
    let f := ShapeFault.badOperands (.value "a") "==" (.value "b")
    (Marker.parse s).value = .error (.shape f) ∧
      (MarkerFault.shape f).message =
        "Comparison needs a variable and a quoted value: \"a\" == \"b\"" := by
  intro s f
  have hitems : Item.ofText "os_name == 'nt' or ('a' == 'b' and extra == os_name) or 'c' < extra" =
      .ok [.group [.name "os_name", .operator "==", .value "nt"], .keyword .disj,
        .group [.group [.value "a", .operator "==", .value "b"], .keyword .conj,
          .group [.name "extra", .operator "==", .name "os_name"]], .keyword .disj,
        .group [.value "c", .operator "<", .name "extra"]] := by rfl
  have hbefore : ∀ u ∈ [Triple.mk (.name "os_name") "==" (.value "nt")], u.Fits := by
    intro u hu
    obtain rfl := List.mem_singleton.mp hu
    exact .nameFirst "os_name" .equal "nt"
  have hmisfit : ¬ Triple.Fits ⟨.value "a", "==", .value "b"⟩ := by
    rw [Triple.fits_iff]
    rintro ⟨c, hc⟩
    cases hc
  obtain ⟨-, hparse, hmessage⟩ := (ofItems_eq_error_iff_of_ofText hitems).2.1 _ _ _
    (by simp [sequenceTriples, triples, chainTriples]; rfl) hbefore hmisfit
  refine ⟨hparse, hmessage.trans ?_⟩
  simp [Triple.text, sequenceText, Item.text]

end Marker

end EnvMarkers
