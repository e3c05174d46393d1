import Mathlib.Data.List.Forall2
import Mathlib.Data.Option.Basic
import SearchGateway.Filter.Values
import SearchGateway.Proofs.Except

/-!
# What a filter spells

The readers of `SearchGateway.Filter` go through a raw filter with a path at hand, which they need
for their messages alone. `SpellsCondition`, `SpellsGroupMember` and `SpellsMember` say what a value
is read as without any path, by the keys that it holds and what stands under them, and
`readCondition_eq_ok_some_iff` up to `Expression.ofJson_eq_ok_iff` say that the readers succeed with
exactly that. Success thus depends neither on the path at which a reader stands nor on what is read
beside it.
-/

namespace SearchGateway.Filter

/-! ## Single values -/

/-- The values that count as absent. -/
inductive IsFalsy : Json → Prop where
  | null : IsFalsy .null
  | false : IsFalsy (.bool .false)
  | zero : IsFalsy (.int 0)
  | floatZero {x : Float} (h : (x == 0) = true) : IsFalsy (.float x)
  | empty : IsFalsy (.string "")

/-- A value counts as set exactly where it is not one that counts as absent. -/
theorem isSet_eq_true_iff {v : Json} : v.isSet = true ↔ ¬ IsFalsy v := by
  constructor
  · rintro hset (_ | _ | _ | h | _)
    · cases hset
    · cases hset
    · cases hset
    · simp [Json.isSet, bne, h] at hset
    · cases hset
  · intro h
    cases v with
    | null => exact absurd .null h
    | bool b =>
      cases b with
      | false => exact absurd .false h
      | true => rfl
    | int n =>
      refine bne_iff_ne.2 ?_
      rintro rfl
      exact h .zero
    | float x =>
      cases hx : x == 0 with
      | true => exact absurd (.floatZero hx) h
      | false => simp [Json.isSet, bne, hx]
    | string s =>
      have hs : s ≠ "" := by
        rintro rfl
        exact h .empty
      simpa [Json.isSet] using hs
    | array | object => rfl

/-- A value is shaped like a condition: its `field` is a string that is not empty, and its
`operator` does not count as absent. -/
def HasConditionShape (v : Json) : Prop :=
  ∃ field operator, v.get? "field" = some (.string field) ∧ field ≠ "" ∧
    v.get? "operator" = some operator ∧ ¬ IsFalsy operator

/-- A key of a value is absent or `null`. -/
def Lacks (v : Json) (key : String) : Prop := ∀ w, v.get? key = some w → w = .null

/-- The look-up of field and operator finds them where the value is shaped like a condition. -/
theorem conditionShape?_eq_some_iff {v operator : Json} {field : String} :
    conditionShape? v = some (field, operator) ↔
      v.get? "field" = some (.string field) ∧ field ≠ "" ∧
        v.get? "operator" = some operator ∧ ¬ IsFalsy operator := by
  unfold conditionShape?
  split
  · next field' operator' hfield hoperator =>
    rw [hfield, hoperator, ← isSet_eq_true_iff]
    split
    · next h =>
      simp only [Option.some.injEq, Prod.mk.injEq, Json.string.injEq]
      constructor
      · rintro ⟨rfl, rfl⟩
        exact ⟨rfl, h.1, rfl, h.2⟩
      · rintro ⟨rfl, -, rfl, -⟩
        exact ⟨rfl, rfl⟩
    · next h =>
      simp only [reduceCtorEq, Option.some.injEq, Json.string.injEq, false_iff]
      rintro ⟨rfl, hne, rfl, hset⟩
      exact h ⟨hne, hset⟩
  · next hneither =>
    simp only [reduceCtorEq, false_iff]
    rintro ⟨hfield, -, hoperator, -⟩
    exact hneither field operator hfield hoperator

/-- The look-up of field and operator finds nothing where the value has another shape. -/
theorem conditionShape?_eq_none_iff {v : Json} :
    conditionShape? v = none ↔ ¬ HasConditionShape v := by
  rw [Option.eq_none_iff_forall_ne_some]
  constructor
  · rintro hnone ⟨field, operator, h⟩
    exact hnone _ (conditionShape?_eq_some_iff.2 h)
  · rintro hshape ⟨field, operator⟩ h
    exact hshape ⟨field, operator, conditionShape?_eq_some_iff.1 h⟩

/-- Different operators have different names. -/
theorem Operator.name_injective : Function.Injective Operator.name := by
  intro op op' h
  have hop := Operator.ofName?_name op
  rw [h, Operator.ofName?_name] at hop
  exact (Option.some.inj hop).symm

/-- The operator that a value names is the one whose name it is. -/
theorem namedOperator?_eq_some_iff {v : Json} {op : Operator} :
    namedOperator? v = some op ↔ v = .string op.name := by
  constructor
  · intro h
    obtain ⟨s, hs, hop⟩ := Option.bind_eq_some_iff.1 h
    have hname : op.name = s := by simpa using List.find?_some hop
    cases v with
    | string t =>
      cases hs
      rw [hname]
    | null | bool | int | float | array | object => cases hs
  · rintro rfl
    exact Operator.ofName?_name op

/-- The look-up of a key that holds something finds what it holds. -/
theorem presentKey?_eq_some_iff {v w : Json} {key : String} :
    presentKey? v key = some w ↔ v.get? key = some w ∧ w ≠ .null := by
  unfold presentKey?
  rw [Option.filter_eq_some_iff]
  refine and_congr_right fun _ => ?_
  cases w <;> simp [Json.isNull]

/-- The look-up of a key that holds something finds nothing where it is absent or `null`. -/
theorem presentKey?_eq_none_iff {v : Json} {key : String} :
    presentKey? v key = none ↔ Lacks v key := by
  rw [Option.eq_none_iff_forall_ne_some]
  refine forall_congr' fun w => ?_
  rw [ne_eq, presentKey?_eq_some_iff, not_and, not_not]

/-- A value spells a condition: `field` and `operator` are strings, the one not empty and the other
a known name. An absent value of the condition is `null`. -/
structure SpellsCondition (v : Json) (c : Condition) : Prop where
  field : v.get? "field" = some (.string c.field)
  field_ne : c.field ≠ ""
  operator : v.get? "operator" = some (.string c.operator.name)
  value : c.value = (v.get? "value").getD .null

/-- A value spells a member of a group, which can only be a condition. -/
inductive SpellsGroupMember (v : Json) : Node → Prop where
  | condition {c : Condition} (h : SpellsCondition v c) : SpellsGroupMember v (.condition c)

/-- The combinator that a group of the given one must not hold beside it. -/
def Combinator.other : Combinator → Combinator
  | and => or
  | or => and

/-- There are two combinators. -/
theorem Combinator.eq_or_eq_other (c c' : Combinator) : c' = c ∨ c' = c.other := by
  cases c <;> cases c' <;> simp [Combinator.other]

/-- A value spells a member of an expression: a condition, or, where it has not the shape of one, a
group, whose list stands under exactly one of the two combinators. -/
inductive SpellsMember (v : Json) : Node → Prop where
  | condition {c : Condition} (h : SpellsCondition v c) : SpellsMember v (.condition c)
  | group {combinator : Combinator} {items : List Json} {members : List Node}
      (hshape : ¬ HasConditionShape v)
      (hitems : v.get? combinator.name = some (.array items))
      (hother : Lacks v combinator.other.name)
      (hmembers : List.Forall₂ SpellsGroupMember items members) :
      SpellsMember v (.group combinator members)

/-- The name of an operator is no empty text. -/
theorem not_isFalsy_name (op : Operator) : ¬ IsFalsy (.string op.name) := by
  rw [← isSet_eq_true_iff]
  cases op <;> decide

/-- What spells a condition has the shape of one. -/
theorem SpellsCondition.hasConditionShape {v : Json} {c : Condition} (h : SpellsCondition v c) :
    HasConditionShape v :=
  ⟨c.field, _, h.field, h.field_ne, h.operator, not_isFalsy_name c.operator⟩

/-- A reader of conditions answers nothing exactly where the value has not the shape of one. -/
theorem readCondition_eq_ok_none_iff {path : Path} {v : Json} :
    readCondition path v = .ok none ↔ ¬ HasConditionShape v := by
  rw [← conditionShape?_eq_none_iff]
  unfold readCondition
  split
  · next h => simp [h]
  · next field operator h =>
    split <;> simp [h]

/-- A reader of conditions answers what the value spells. -/
theorem readCondition_eq_ok_some_iff {path : Path} {v : Json} {c : Condition} :
    readCondition path v = .ok (some c) ↔ SpellsCondition v c := by
  unfold readCondition
  split
  · next h =>
    simp only [Except.ok.injEq, reduceCtorEq, false_iff]
    intro hc
    exact conditionShape?_eq_none_iff.1 h hc.hasConditionShape
  · next field operator h =>
    obtain ⟨hfield, hne, hoperator, -⟩ := conditionShape?_eq_some_iff.1 h
    split
    · next op hop =>
      rw [namedOperator?_eq_some_iff] at hop
      subst hop
      simp only [Except.ok.injEq, Option.some.injEq]
      constructor
      · rintro rfl
        exact ⟨hfield, hne, hoperator, rfl⟩
      · intro hc
        have hname : op = c.operator := by
          have hsame : op.name = c.operator.name := by simpa [hc.operator] using hoperator.symm
          exact Operator.name_injective hsame
        have htext : field = c.field := by simpa [hc.field] using hfield.symm
        rw [htext, hname, ← hc.value]
    · next hop =>
      simp only [reduceCtorEq, false_iff]
      intro hc
      have hsame : operator = .string c.operator.name := by simpa [hc.operator] using hoperator.symm
      rw [hsame, namedOperator?_eq_some_iff.2 rfl] at hop
      cases hop

/-! ## Lists -/

/-- A list is read when each of its items is, whatever the paths: this is what a reader of items
brings to it, given what the items spell. -/
theorem readEach_eq_ok_iff {α : Type} {read : Path → Json → Except Defect α}
    {Spells : Json → α → Prop} (hread : ∀ path v a, read path v = .ok a ↔ Spells v a)
    (root : Path) (i : Nat) (vs : List Json) (as : List α) :
    readEach read root i vs = .ok as ↔ List.Forall₂ Spells vs as := by
  induction vs generalizing i as with
  | nil => cases as <;> simp [readEach]
  | cons v vs ih =>
    simp only [readEach, bind_eq_ok_iff, hread, ih]
    constructor
    · rintro ⟨a, ha, rest, hrest, h⟩
      cases h
      exact .cons ha hrest
    · intro h
      cases h with
      | cons ha hrest => exact ⟨_, ha, _, hrest, rfl⟩

/-- A reader of members of a group answers what the value spells. -/
theorem readGroupMember_eq_ok_iff (path : Path) (v : Json) (n : Node) :
    readGroupMember path v = .ok n ↔ SpellsGroupMember v n := by
  unfold readGroupMember
  rw [bind_eq_ok_iff]
  constructor
  · rintro ⟨c, hc, hn⟩
    cases c with
    | none => cases hn
    | some c =>
      cases hn
      exact .condition (readCondition_eq_ok_some_iff.1 hc)
  · rintro ⟨h⟩
    exact ⟨_, readCondition_eq_ok_some_iff.2 h, rfl⟩

/-- A group is read when its members are a list of which each one spells a condition. -/
theorem readGroup_eq_ok_iff {path : Path} {combinator : Combinator} {v : Json} {n : Node} :
    readGroup path combinator v = .ok n ↔
      ∃ items members, v = .array items ∧ List.Forall₂ SpellsGroupMember items members ∧
        n = .group combinator members := by
  unfold readGroup
  cases v with
  | array items =>
    simp only [Json.array?, map_eq_ok_iff, readEach_eq_ok_iff readGroupMember_eq_ok_iff]
    constructor
    · rintro ⟨members, hmembers, rfl⟩
      exact ⟨items, members, rfl, hmembers, rfl⟩
    · rintro ⟨_, members, h, hmembers, rfl⟩
      cases h
      exact ⟨members, hmembers, rfl⟩
  | null | bool | int | float | string | object => simp [Json.array?]

/-- A reader of members answers what the value spells. -/
theorem readMember_eq_ok_iff (path : Path) (v : Json) (n : Node) :
    readMember path v = .ok n ↔ SpellsMember v n := by
  unfold readMember
  rw [bind_eq_ok_iff]
  constructor
  · rintro ⟨c, hc, hn⟩
    cases c with
    | some c =>
      cases hn
      exact .condition (readCondition_eq_ok_some_iff.1 hc)
    | none =>
      have hshape := readCondition_eq_ok_none_iff.1 hc
      cases hand : presentKey? v "and" <;> cases hor : presentKey? v "or" <;>
        simp only [hand, hor] at hn
      · cases hn
      · obtain ⟨items, members, rfl, hmembers, rfl⟩ := readGroup_eq_ok_iff.1 hn
        exact .group hshape (presentKey?_eq_some_iff.1 hor).1 (presentKey?_eq_none_iff.1 hand)
          hmembers
      · obtain ⟨items, members, rfl, hmembers, rfl⟩ := readGroup_eq_ok_iff.1 hn
        exact .group hshape (presentKey?_eq_some_iff.1 hand).1 (presentKey?_eq_none_iff.1 hor)
          hmembers
      · cases hn
  · intro h
    cases h with
    | condition h => exact ⟨_, readCondition_eq_ok_some_iff.2 h, rfl⟩
    | @group combinator items members hshape hitems hother hmembers =>
      refine ⟨none, readCondition_eq_ok_none_iff.2 hshape, ?_⟩
      have hgroup : ∀ c, readGroup path c (.array items) = .ok (.group c members) :=
        fun c => readGroup_eq_ok_iff.2 ⟨items, members, rfl, hmembers, rfl⟩
      have hpresent := presentKey?_eq_some_iff.2 ⟨hitems, by simp⟩
      have habsent := presentKey?_eq_none_iff.2 hother
      cases combinator with
      | and =>
        simp only [Combinator.name, Combinator.other] at hpresent habsent
        simp only [hpresent, habsent]
        exact hgroup .and
      | or =>
        simp only [Combinator.name, Combinator.other] at hpresent habsent
        simp only [hpresent, habsent]
        exact hgroup .or

/-! ## Whole filters -/

/-- A list that may be absent is read when it is absent or each of its items is read. -/
theorem readList?_eq_ok_iff {root : Path} {items : Option (List Json)}
    {members : Option (List Node)} :
    readList? root items = .ok members ↔ Option.Rel (List.Forall₂ SpellsMember) items members := by
  cases items with
  | none => cases members <;> simp [readList?]
  | some items =>
    simp only [readList?, readMembers, map_eq_ok_iff, readEach_eq_ok_iff readMember_eq_ok_iff]
    constructor
    · rintro ⟨nodes, hnodes, rfl⟩
      exact .some hnodes
    · intro h
      cases h with
      | some hnodes => exact ⟨_, hnodes, rfl⟩

/-- A raw filter is read when both its lists are. What it is read as is the older list, or else
the current one. -/
theorem Expression.ofJson_eq_ok_iff {v : Json} {e : Option Expression} :
    Expression.ofJson v = .ok e ↔
      ∃ legacy current, Option.Rel (List.Forall₂ SpellsMember) (legacyMembers? v) legacy ∧
        Option.Rel (List.Forall₂ SpellsMember) (currentMembers? v) current ∧
        e = (legacy.or current).map Expression.mk := by
  simp only [Expression.ofJson, bind_eq_ok_iff, readList?_eq_ok_iff]
  constructor
  · rintro ⟨legacy, hlegacy, current, hcurrent, h⟩
    cases h
    exact ⟨legacy, current, hlegacy, hcurrent, rfl⟩
  · rintro ⟨legacy, current, hlegacy, hcurrent, rfl⟩
    exact ⟨legacy, hlegacy, current, hcurrent, rfl⟩

/-- A filter can be read exactly where reading it gives a result. -/
theorem isReadable_eq_true_iff {v : Json} :
    isReadable v = true ↔ ∃ e, Expression.ofJson v = .ok e := by
  unfold isReadable
  cases Expression.ofJson v <;> simp [Except.isOk, Except.toBool]

end SearchGateway.Filter
