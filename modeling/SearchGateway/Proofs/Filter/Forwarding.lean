import SearchGateway.Proofs.Filter.Grammar
import SearchGateway.Proofs.Filter.NormalForm

/-!
# What is forwarded unread

A query engine is sent the members of a filter as the client wrote them, with every key that they
hold, while reading takes from a condition its three keys only. `ForwardedAsRead` says that no list
under `and` or `or` goes to the engine unless it was read as the group that it is.

Groups keep to this by themselves: what is read as a group holds one list, whose items are all read,
and all of them are conditions (`SpellsMember.heldAsRead`, `SpellsMember.isCondition_of_mem`).
Conditions do not: one may hold `and` or `or` beside its own keys, with any value, and the value is
forwarded unread (`not_forwardedAsRead_strayGroup`). This is the only way for anything to get past
reading (`forwardedAsRead_iff`).
-/

namespace SearchGateway.Filter

/-- The members of a group; a condition has none. -/
def Node.members : Node → List Node
  | .condition _ => []
  | .group _ members => members

/-- Whatever a value holds under the key of a combinator was read, as the group of conditions that
its node is. -/
def HeldAsRead (v : Json) (n : Node) : Prop :=
  ∀ combinator : Combinator, ¬ Lacks v combinator.name →
    ∃ items members, v.get? combinator.name = some (.array items) ∧
      n = .group combinator members ∧ List.Forall₂ SpellsGroupMember items members

/-- Each item of a list, and each item of a list that one of them holds under the key of
a combinator, stands where a node was read, and holds no more than that. -/
def ForwardedAsRead (items : List Json) (nodes : List Node) : Prop :=
  ∀ (i : Nat) v, items[i]? = some v → ∃ n, nodes[i]? = some n ∧ HeldAsRead v n ∧
    ∀ (combinator : Combinator) inner (j : Nat) w,
      v.get? combinator.name = some (.array inner) → inner[j]? = some w →
        ∃ m, n.members[j]? = some m ∧ HeldAsRead w m

/-- The values at the positions of members: the items of a list, and the items of the lists that
these hold under the key of a combinator. -/
inductive IsForwarded (items : List Json) : Json → Prop where
  | member {v : Json} (h : v ∈ items) : IsForwarded items v
  | inGroup {v w : Json} {combinator : Combinator} {inner : List Json} (h : v ∈ items)
      (hinner : v.get? combinator.name = some (.array inner)) (hw : w ∈ inner) :
      IsForwarded items w

/-! ## Single members -/

section
variable {v : Json} {n : Node} {combinator : Combinator} {inner : List Json}

/-- A list is something. -/
theorem not_lacks_of_array {key : String} (h : v.get? key = some (.array inner)) :
    ¬ Lacks v key := by
  intro hlacks
  cases hlacks _ h

/-- A condition is no more than it is read as exactly where it lacks both combinators. -/
theorem heldAsRead_condition_iff {c : Condition} :
    HeldAsRead v (.condition c) ↔ ∀ combinator : Combinator, Lacks v combinator.name := by
  constructor
  · intro h combinator
    by_contra hheld
    obtain ⟨_, _, -, hgroup, -⟩ := h combinator hheld
    cases hgroup
  · intro h combinator hheld
    exact absurd (h combinator) hheld

/-- What is read as a group is no more than that: it lacks the other combinator. -/
theorem SpellsMember.heldAsRead {members : List Node}
    (h : SpellsMember v (.group combinator members)) :
    HeldAsRead v (.group combinator members) := by
  cases h with
  | group _ hitems hother hmembers =>
    intro held hheld
    rcases combinator.eq_or_eq_other held with rfl | rfl
    · exact ⟨_, members, hitems, rfl, hmembers⟩
    · exact absurd hother hheld

/-- A list that a group holds under either combinator is the one that its members are read from. -/
theorem SpellsMember.inner_spells {members : List Node} {held : Combinator}
    (h : SpellsMember v (.group combinator members))
    (hinner : v.get? held.name = some (.array inner)) :
    List.Forall₂ SpellsGroupMember inner members := by
  obtain ⟨items, members', hitems, hgroup, hmembers⟩ :=
    h.heldAsRead held (not_lacks_of_array hinner)
  cases hgroup
  have hsame : inner = items := by simpa [hinner] using hitems
  rw [hsame]
  exact hmembers

/-- No group stands inside a group: what is read as a group holds conditions. -/
theorem SpellsMember.isCondition_of_mem {members : List Node} {held : Combinator} {w : Json}
    (h : SpellsMember v (.group combinator members))
    (hinner : v.get? held.name = some (.array inner)) (hw : w ∈ inner) : IsCondition w :=
  isCondition_iff_spellsGroupMember.2
    (forall_exists_iff_forall₂.2 ⟨members, h.inner_spells hinner⟩ w hw)

end

/-! ## Lists of members -/

/-- At each position of related lists stand related items. -/
theorem exists_getElem?_of_forall₂ {α β : Type} {r : α → β → Prop} {as : List α} {bs : List β}
    (h : List.Forall₂ r as bs) {i : Nat} {a : α} (ha : as[i]? = some a) :
    ∃ b, bs[i]? = some b ∧ r a b := by
  induction h generalizing i with
  | nil => cases ha
  | cons hr _ ih =>
    cases i with
    | zero =>
      cases ha
      exact ⟨_, rfl, hr⟩
    | succ i => exact ih ha

/-- What is read member for member is forwarded as it was read exactly where no condition in it
holds anything under the key of a combinator. -/
theorem forwardedAsRead_iff_of_spells {items : List Json} {nodes : List Node}
    (h : List.Forall₂ SpellsMember items nodes) :
    ForwardedAsRead items nodes ↔
      ∀ w, IsForwarded items w → IsCondition w → ∀ combinator : Combinator, Lacks w combinator.name
    := by
  constructor
  · intro hread w hforwarded hcondition
    cases hforwarded with
    | member hw =>
      obtain ⟨i, hi⟩ := List.mem_iff_getElem?.1 hw
      obtain ⟨n, hn, hheld, -⟩ := hread i w hi
      obtain ⟨n', hn', hspelt⟩ := exists_getElem?_of_forall₂ h hi
      cases hn.symm.trans hn'
      cases hspelt with
      | condition => exact heldAsRead_condition_iff.1 hheld
      | group hshape => exact absurd hcondition.1 hshape
    | @inGroup v _ combinator inner hv hinner hw =>
      obtain ⟨i, hi⟩ := List.mem_iff_getElem?.1 hv
      obtain ⟨j, hj⟩ := List.mem_iff_getElem?.1 hw
      obtain ⟨n, hn, -, hwithin⟩ := hread i v hi
      obtain ⟨n', hn', hspelt⟩ := exists_getElem?_of_forall₂ h hi
      cases hn.symm.trans hn'
      obtain ⟨m, hm, hheld⟩ := hwithin combinator inner j w hinner hj
      cases n with
      | condition => cases hm
      | group =>
        obtain ⟨m', hm', ⟨_⟩⟩ := exists_getElem?_of_forall₂ (hspelt.inner_spells hinner) hj
        cases hm.symm.trans hm'
        exact heldAsRead_condition_iff.1 hheld
  · intro hlacks i v hi
    obtain ⟨n, hn, hspelt⟩ := exists_getElem?_of_forall₂ h hi
    have hv : v ∈ items := List.mem_iff_getElem?.2 ⟨i, hi⟩
    refine ⟨n, hn, ?_⟩
    cases n with
    | condition c =>
      have hnone : ∀ combinator : Combinator, Lacks v combinator.name := by
        cases hspelt with
        | condition hc => exact hlacks v (.member hv) (isCondition_iff.2 ⟨c, hc⟩)
      refine ⟨heldAsRead_condition_iff.2 hnone, fun combinator inner j w hinner _ => ?_⟩
      exact absurd (hnone combinator) (not_lacks_of_array hinner)
    | group combinator members =>
      refine ⟨hspelt.heldAsRead, fun held inner j w hinner hj => ?_⟩
      obtain ⟨m, hm, hw⟩ := exists_getElem?_of_forall₂ (hspelt.inner_spells hinner) hj
      have hmem : w ∈ inner := List.mem_iff_getElem?.2 ⟨j, hj⟩
      have hnone := hlacks w (.inGroup hv hinner hmem) (hspelt.isCondition_of_mem hinner hmem)
      refine ⟨m, hm, ?_⟩
      cases hw with
      | condition => exact heldAsRead_condition_iff.2 hnone

/-! ## Filters -/

/-- The list that goes to the query engine is read member for member as the expression. -/
theorem spells_normalForm {v : Json} {e : Expression} {items : List Json}
    (hread : Expression.ofJson v = .ok (some e))
    (hsent : (normalForm v).get? "filters" = some (.array items)) :
    List.Forall₂ SpellsMember items e.members := by
  obtain ⟨-, items', hitems', hmembers⟩ := ofJson_eq_ok_some_iff.1 (ofJson_normalForm hread)
  rcases hitems' with hlegacy | ⟨-, hcurrent⟩
  · exact absurd hlegacy (legacyMembers?_eq_none_iff.1 (legacyMembers?_normalForm v) items')
  · have hsame : items' = items := by simpa [HoldsCurrent, hsent] using hcurrent.symm
    rwa [hsame] at hmembers

/-- A filter that can be read, and of which a list goes to the query engine, is read as an
expression. The list goes to the engine as it was read exactly where no condition in it, on its own
or in a group, holds anything under `and` or `or`. In any case a member that is no condition holds
no more than the group that it is read as, and all that stands in its list are conditions: no group
goes to the engine unread, and none inside another. -/
theorem forwardedAsRead_iff {v : Json} {items : List Json} (hreadable : isReadable v = true)
    (hsent : (normalForm v).get? "filters" = some (.array items)) :
    ∃ e, Expression.ofJson v = .ok (some e) ∧
      (ForwardedAsRead items e.members ↔
        ∀ w, IsForwarded items w → IsCondition w →
          ∀ combinator : Combinator, Lacks w combinator.name) ∧
      ∀ (i : Nat) w, items[i]? = some w → ¬ IsCondition w →
        ∃ n, e.members[i]? = some n ∧ HeldAsRead w n ∧
          ∀ (combinator : Combinator) inner, w.get? combinator.name = some (.array inner) →
            ∀ x ∈ inner, IsCondition x := by
  obtain ⟨e?, he⟩ := isReadable_eq_true_iff.1 hreadable
  cases e? with
  | none =>
    have hnone := (ofJson_eq_ok_none_iff.1 (ofJson_normalForm he)).2 items
    exact absurd hsent hnone
  | some e =>
    have hspells := spells_normalForm he hsent
    refine ⟨e, he, forwardedAsRead_iff_of_spells hspells, fun i w hi hcondition => ?_⟩
    obtain ⟨n, hn, hspelt⟩ := exists_getElem?_of_forall₂ hspells hi
    refine ⟨n, hn, ?_⟩
    cases n with
    | condition c =>
      cases hspelt with
      | condition hc => exact absurd (isCondition_iff.2 ⟨c, hc⟩) hcondition
    | group =>
      exact ⟨hspelt.heldAsRead, fun combinator inner hinner x hx =>
        hspelt.isCondition_of_mem hinner hx⟩

/-- A condition on the field `a`, with further keys in front. -/
def conditionWith (more : List (String × Json)) : Json :=
  .object (more ++ [("field", .string "a"), ("operator", .string "eq"), ("value", .int 1)])

/-- A filter with a condition of its own and a group of one condition. -/
def groupedFilter : Json :=
  ofMembers [conditionWith [], .object [("or", .array [conditionWith []])]]

/-- What goes to the engine of `groupedFilter` was read. -/
theorem forwardedAsRead_iff_groupedFilter :
    isReadable groupedFilter = true ∧
      ∃ e items, (normalForm groupedFilter).get? "filters" = some (.array items) ∧
        Expression.ofJson groupedFilter = .ok (some e) ∧ ForwardedAsRead items e.members := by
  have hreadable : isReadable groupedFilter = true := by decide
  obtain ⟨e, he, hiff, -⟩ := forwardedAsRead_iff hreadable rfl
  refine ⟨hreadable, e, _, rfl, he, hiff.2 ?_⟩
  have hplain : ∀ combinator : Combinator, Lacks (conditionWith []) combinator.name := by
    rintro (_ | _) w h <;> cases h
  intro w hforwarded hcondition
  cases hforwarded with
  | member hw =>
    rcases List.mem_pair.1 hw with rfl | rfl
    · exact hplain
    · obtain ⟨_, hop⟩ := hcondition.2
      cases hop
  | @inGroup v _ combinator inner hv hinner hw =>
    rcases List.mem_pair.1 hv with rfl | rfl
    · exact absurd (hplain combinator) (not_lacks_of_array hinner)
    · cases combinator with
      | and => cases hinner
      | or =>
        cases hinner
        rw [List.mem_singleton.1 hw]
        exact hplain

/-- A condition that holds a list with an unknown operator under `or` beside its own keys. -/
def strayCondition : Json :=
  conditionWith [("or", .array [.object [("field", .string "b"), ("operator", .string "bogus")]])]

/-- A filter with `strayCondition` in a group. -/
def strayGroup : Json := ofMembers [.object [("and", .array [strayCondition])]]

/-- `strayGroup` can be read, and what goes to the engine of it was not all read. -/
theorem not_forwardedAsRead_strayGroup :
    ∃ e items, Expression.ofJson strayGroup = .ok (some e) ∧
      (normalForm strayGroup).get? "filters" = some (.array items) ∧
      ¬ ForwardedAsRead items e.members := by
  have hread : Expression.ofJson strayGroup =
      .ok (some ⟨[.group .and [.condition ⟨"a", .equal, .int 1⟩]]⟩) := rfl
  have hsent : (normalForm strayGroup).get? "filters" =
      some (.array [.object [("and", .array [strayCondition])]]) := rfl
  refine ⟨_, _, hread, hsent, ?_⟩
  rw [forwardedAsRead_iff_of_spells (spells_normalForm hread hsent)]
  intro h
  have hinner : (Json.object [("and", .array [strayCondition])]).get? Combinator.and.name =
      some (.array [strayCondition]) := rfl
  have hforwarded :=
    IsForwarded.inGroup (List.mem_singleton.2 rfl) hinner (List.mem_singleton.2 rfl)
  have hcondition : IsCondition strayCondition :=
    isCondition_iff.2 ⟨⟨"a", .equal, .int 1⟩, rfl, by decide, rfl, rfl⟩
  cases h strayCondition hforwarded hcondition .or _ rfl

end SearchGateway.Filter
