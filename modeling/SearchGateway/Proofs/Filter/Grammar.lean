import SearchGateway.Proofs.Filter.Reading

/-!
# The grammar of filters

Which values are filters, said without a reader: `IsCondition` and `IsMember` are the grammar of the
members, and a value is well formed when every member is of each of the two lists that it can hold.
`SpellsMember` tells a member's node, and `isMember_iff` that the grammar admits exactly the values
that have one. From this, reading accepts the grammar and nothing else, and gives the nodes
of the list that counts (`ofJson_reads_grammar`).
-/

namespace SearchGateway.Filter

/-! ## Members -/

/-- The grammar of conditions: the shape of one, with the name of an operator. -/
def IsCondition (v : Json) : Prop :=
  HasConditionShape v ∧ ∃ op : Operator, v.get? "operator" = some (.string op.name)

/-- The grammar of groups with a given combinator: a list of conditions under the combinator, and
nothing under the other one. -/
def IsGroup (combinator : Combinator) (v : Json) : Prop :=
  Lacks v combinator.other.name ∧
    ∃ items, v.get? combinator.name = some (.array items) ∧ ∀ item ∈ items, IsCondition item

/-- The grammar of members: a condition, or what has not the shape of one and is a group. -/
def IsMember (v : Json) : Prop :=
  IsCondition v ∨ ¬ HasConditionShape v ∧ (IsGroup .and v ∨ IsGroup .or v)

/-- The conditions of the grammar are the values that spell one. -/
theorem isCondition_iff {v : Json} : IsCondition v ↔ ∃ c, SpellsCondition v c := by
  constructor
  · rintro ⟨⟨field, operator, hfield, hne, -, -⟩, op, hop⟩
    exact ⟨⟨field, op, (v.get? "value").getD .null⟩, hfield, hne, hop, rfl⟩
  · rintro ⟨c, hc⟩
    exact ⟨hc.hasConditionShape, c.operator, hc.operator⟩

/-- The conditions of the grammar are the values that spell a member of a group. -/
theorem isCondition_iff_spellsGroupMember {v : Json} :
    IsCondition v ↔ ∃ n, SpellsGroupMember v n := by
  rw [isCondition_iff]
  constructor
  · rintro ⟨c, hc⟩
    exact ⟨.condition c, .condition hc⟩
  · rintro ⟨_, ⟨hc⟩⟩
    exact ⟨_, hc⟩

/-- Every item of a list is related to something exactly where the list is related to a list. -/
theorem forall_exists_iff_forall₂ {α β : Type} {r : α → β → Prop} {as : List α} :
    (∀ a ∈ as, ∃ b, r a b) ↔ ∃ bs, List.Forall₂ r as bs := by
  induction as with
  | nil => simp
  | cons a as ih =>
    rw [List.forall_mem_cons, ih]
    constructor
    · rintro ⟨⟨b, hb⟩, bs, hbs⟩
      exact ⟨b :: bs, .cons hb hbs⟩
    · rintro ⟨_, h⟩
      cases h with
      | cons hb hbs => exact ⟨⟨_, hb⟩, _, hbs⟩

/-- The groups of the grammar, among the values that are not shaped like conditions, are the values
that spell one. -/
theorem isGroup_iff {combinator : Combinator} {v : Json} (hshape : ¬ HasConditionShape v) :
    IsGroup combinator v ↔ ∃ members, SpellsMember v (.group combinator members) := by
  constructor
  · rintro ⟨hother, items, hitems, hconditions⟩
    have hspelt : ∀ item ∈ items, ∃ n, SpellsGroupMember item n := fun item hitem =>
      isCondition_iff_spellsGroupMember.1 (hconditions item hitem)
    obtain ⟨members, hmembers⟩ := forall_exists_iff_forall₂.1 hspelt
    exact ⟨members, .group hshape hitems hother hmembers⟩
  · rintro ⟨members, h⟩
    cases h with
    | group _ hitems hother hmembers =>
      refine ⟨hother, _, hitems, fun item hitem => ?_⟩
      exact isCondition_iff_spellsGroupMember.2
        (forall_exists_iff_forall₂.2 ⟨members, hmembers⟩ item hitem)

/-- The members of the grammar are the values that spell one. -/
theorem isMember_iff {v : Json} : IsMember v ↔ ∃ n, SpellsMember v n := by
  constructor
  · rintro (h | ⟨hshape, h | h⟩)
    · obtain ⟨c, hc⟩ := isCondition_iff.1 h
      exact ⟨.condition c, .condition hc⟩
    · obtain ⟨members, hmembers⟩ := (isGroup_iff hshape).1 h
      exact ⟨_, hmembers⟩
    · obtain ⟨members, hmembers⟩ := (isGroup_iff hshape).1 h
      exact ⟨_, hmembers⟩
  · rintro ⟨n, h⟩
    cases h with
    | condition hc => exact .inl (isCondition_iff.2 ⟨_, hc⟩)
    | @group combinator items members hshape hitems hother hmembers =>
      have hgroup : IsGroup combinator v :=
        (isGroup_iff hshape).2 ⟨members, .group hshape hitems hother hmembers⟩
      cases combinator with
      | and => exact .inr ⟨hshape, .inl hgroup⟩
      | or => exact .inr ⟨hshape, .inr hgroup⟩

/-! ## Filters -/

/-- A value holds a list of members. -/
def HoldsCurrent (v : Json) (items : List Json) : Prop := v.get? "filters" = some (.array items)

/-- A value holds a list of members in the older notation. -/
def HoldsLegacy (v : Json) (items : List Json) : Prop :=
  ∃ inner, v.get? "filter" = some inner ∧ HoldsCurrent inner items

/-- The grammar of filters: every member of both lists is well formed. -/
def IsFilter (v : Json) : Prop :=
  (∀ items, HoldsLegacy v items → ∀ item ∈ items, IsMember item) ∧
    ∀ items, HoldsCurrent v items → ∀ item ∈ items, IsMember item

/-- The list that counts: the one in the older notation, or else the current one. -/
def HoldsMembers (v : Json) (items : List Json) : Prop :=
  HoldsLegacy v items ∨ (∀ older, ¬ HoldsLegacy v older) ∧ HoldsCurrent v items

/-- The look-up of a list of members finds the one that the value holds. -/
theorem currentMembers?_eq_some_iff {v : Json} {items : List Json} :
    currentMembers? v = some items ↔ HoldsCurrent v items := by
  unfold currentMembers? HoldsCurrent
  rw [Option.bind_eq_some_iff]
  constructor
  · rintro ⟨w, hw, hitems⟩
    cases w with
    | array items' =>
      cases hitems
      exact hw
    | null | bool | int | float | string | object => cases hitems
  · intro h
    exact ⟨_, h, rfl⟩

/-- The look-up of a list in the older notation finds the one that the value holds. -/
theorem legacyMembers?_eq_some_iff {v : Json} {items : List Json} :
    legacyMembers? v = some items ↔ HoldsLegacy v items := by
  have hnested : legacyMembers? v = (v.get? "filter").bind currentMembers? := by
    unfold legacyMembers?
    rw [Option.bind_assoc]
    rfl
  rw [hnested, Option.bind_eq_some_iff]
  exact exists_congr fun inner => and_congr_right fun _ => currentMembers?_eq_some_iff

/-- A list that may be absent can be read where all that it holds are members. -/
theorem exists_rel_spellsMember_iff {items? : Option (List Json)} :
    (∃ nodes, Option.Rel (List.Forall₂ SpellsMember) items? nodes) ↔
      ∀ items, items? = some items → ∀ item ∈ items, IsMember item := by
  cases items? with
  | none =>
    constructor
    · rintro - items h
      cases h
    · intro _
      exact ⟨none, .none⟩
  | some items =>
    simp only [Option.some.injEq, forall_eq', isMember_iff, forall_exists_iff_forall₂]
    constructor
    · rintro ⟨_, h⟩
      cases h with
      | some hnodes => exact ⟨_, hnodes⟩
    · rintro ⟨nodes, hnodes⟩
      exact ⟨some nodes, .some hnodes⟩

/-- The filters of the grammar are the values whose two lists can be read. -/
theorem isFilter_iff {v : Json} :
    IsFilter v ↔
      (∃ legacy, Option.Rel (List.Forall₂ SpellsMember) (legacyMembers? v) legacy) ∧
        ∃ current, Option.Rel (List.Forall₂ SpellsMember) (currentMembers? v) current := by
  simp only [exists_rel_spellsMember_iff, legacyMembers?_eq_some_iff, currentMembers?_eq_some_iff]
  rfl

/-- A value that is no object holds nothing. -/
theorem get?_of_not_object {v : Json} (h : ∀ fields, v ≠ .object fields) (key : String) :
    v.get? key = none := by
  cases v with
  | object fields => exact absurd rfl (h fields)
  | null | bool | int | float | string | array => rfl

/-- A value that is no object is a filter, since it holds no list. -/
theorem isFilter_of_not_object {v : Json} (h : ∀ fields, v ≠ .object fields) : IsFilter v := by
  constructor
  · rintro items ⟨inner, hinner, -⟩
    rw [get?_of_not_object h] at hinner
    cases hinner
  · intro items hitems
    rw [HoldsCurrent, get?_of_not_object h] at hitems
    cases hitems

/-- A value has no list in the older notation exactly where the look-up finds none. -/
theorem legacyMembers?_eq_none_iff {v : Json} :
    legacyMembers? v = none ↔ ∀ items, ¬ HoldsLegacy v items := by
  simp only [Option.eq_none_iff_forall_ne_some, ne_eq, legacyMembers?_eq_some_iff]

/-- A value has no list in the current notation exactly where the look-up finds none. -/
theorem currentMembers?_eq_none_iff {v : Json} :
    currentMembers? v = none ↔ ∀ items, ¬ HoldsCurrent v items := by
  simp only [Option.eq_none_iff_forall_ne_some, ne_eq, currentMembers?_eq_some_iff]

/-- The two lists are read as an expression when the one that counts is, member for member. -/
theorem ofJson_eq_ok_some_iff {v : Json} {e : Expression} :
    Expression.ofJson v = .ok (some e) ↔
      IsFilter v ∧ ∃ items, HoldsMembers v items ∧ List.Forall₂ SpellsMember items e.members := by
  rw [Expression.ofJson_eq_ok_iff]
  constructor
  · rintro ⟨legacy, current, hlegacy, hcurrent, he⟩
    refine ⟨isFilter_iff.2 ⟨⟨legacy, hlegacy⟩, current, hcurrent⟩, ?_⟩
    generalize hl : legacyMembers? v = legacyItems at hlegacy
    generalize hc : currentMembers? v = currentItems at hcurrent
    cases hlegacy with
    | @some items members hmembers =>
      cases he
      exact ⟨items, .inl (legacyMembers?_eq_some_iff.1 hl), hmembers⟩
    | none =>
      cases hcurrent with
      | @some items members hmembers =>
        cases he
        have hnone := legacyMembers?_eq_none_iff.1 hl
        exact ⟨items, .inr ⟨hnone, currentMembers?_eq_some_iff.1 hc⟩, hmembers⟩
      | none => cases he
  · rintro ⟨hfilter, items, hitems, hmembers⟩
    obtain ⟨-, current, hcurrent⟩ := isFilter_iff.1 hfilter
    rcases hitems with hlegacy | ⟨hnone, hholds⟩
    · refine ⟨some e.members, current, ?_, hcurrent, rfl⟩
      rw [legacyMembers?_eq_some_iff.2 hlegacy]
      exact .some hmembers
    · refine ⟨none, some e.members, ?_, ?_, rfl⟩
      · rw [legacyMembers?_eq_none_iff.2 hnone]
        exact .none
      · rw [currentMembers?_eq_some_iff.2 hholds]
        exact .some hmembers

/-- The two lists are read as no restriction when there is neither. -/
theorem ofJson_eq_ok_none_iff {v : Json} :
    Expression.ofJson v = .ok none ↔
      (∀ items, ¬ HoldsLegacy v items) ∧ ∀ items, ¬ HoldsCurrent v items := by
  rw [Expression.ofJson_eq_ok_iff, ← legacyMembers?_eq_none_iff, ← currentMembers?_eq_none_iff]
  constructor
  · rintro ⟨legacy, current, hlegacy, hcurrent, he⟩
    generalize legacyMembers? v = legacyItems at hlegacy
    generalize currentMembers? v = currentItems at hcurrent
    cases hlegacy with
    | some => cases he
    | none =>
      cases hcurrent with
      | some => cases he
      | none => exact ⟨rfl, rfl⟩
  · rintro ⟨hlegacy, hcurrent⟩
    refine ⟨none, none, ?_, ?_, rfl⟩
    · rw [hlegacy]
      exact .none
    · rw [hcurrent]
      exact .none

/-- A filter can be read exactly where it is no object or every member of either list is of the
grammar. It then restricts nothing exactly where it holds neither list. Otherwise it is read as the
members of the list in the older notation, or else of the current one, in their order: each
condition with the field, the operator and the value that it spells, where an absent value is
`null`, and each group with its combinator and its conditions. -/
theorem ofJson_reads_grammar (v : Json) :
    ((∃ e, Expression.ofJson v = .ok e) ↔ (∀ fields, v ≠ .object fields) ∨ IsFilter v) ∧
      (Expression.ofJson v = .ok none ↔
        ((∀ fields, v ≠ .object fields) ∨ IsFilter v) ∧
          (∀ items, ¬ HoldsLegacy v items) ∧ ∀ items, ¬ HoldsCurrent v items) ∧
      ∀ e, Expression.ofJson v = .ok (some e) ↔
        IsFilter v ∧ ∃ items, HoldsMembers v items ∧ List.Forall₂ SpellsMember items e.members := by
  have hgrammar : (∀ fields, v ≠ .object fields) ∨ IsFilter v ↔ IsFilter v := by
    constructor
    · rintro (h | h)
      · exact isFilter_of_not_object h
      · exact h
    · exact .inr
  have hreads : (∃ e, Expression.ofJson v = .ok e) ↔ IsFilter v := by
    rw [isFilter_iff]
    constructor
    · rintro ⟨e, he⟩
      obtain ⟨legacy, current, hlegacy, hcurrent, -⟩ := Expression.ofJson_eq_ok_iff.1 he
      exact ⟨⟨legacy, hlegacy⟩, current, hcurrent⟩
    · rintro ⟨⟨legacy, hlegacy⟩, current, hcurrent⟩
      exact ⟨_, Expression.ofJson_eq_ok_iff.2 ⟨legacy, current, hlegacy, hcurrent, rfl⟩⟩
  rw [hgrammar]
  refine ⟨hreads, ?_, fun e => ofJson_eq_ok_some_iff⟩
  rw [ofJson_eq_ok_none_iff]
  constructor
  · intro hnone
    exact ⟨hreads.1 ⟨none, ofJson_eq_ok_none_iff.2 hnone⟩, hnone⟩
  · rintro ⟨-, hnone⟩
    exact hnone

end SearchGateway.Filter
