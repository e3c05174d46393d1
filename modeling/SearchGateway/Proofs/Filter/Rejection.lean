import SearchGateway.Proofs.Filter.Grammar

/-!
# What a filter is refused for

A filter that is not of the grammar may be wrong in many places, and reading tells one of them. This
module says which, without a reader: of the two lists the older one comes first, of a list the first
member that is not well formed (`FirstFailing`), and of a group, if nothing else is wrong with it,
the first item that is no condition. `MemberFault` is what is wrong with a single member, and where
below it; `FirstDefect` puts it in its place in the filter.

Reading fails with the first defect and with no other (`ofJson_tells_first_defect`). Two facts carry
this, for each level of the notation: what has a fault is refused with that fault
(`MemberFault.readMember_eq`), and what is not of the grammar has one (`exists_memberFault`). As
a reader fails in one way only, no fault but the first is ever told.
-/

namespace SearchGateway

/-- The text of a path goes on with the steps that are added to it. -/
theorem Path.text_append {path : Path} (h : path ≠ []) (rest : Path) :
    (path ++ rest).text = path.text ++ String.join (rest.map stepText) := by
  cases path with
  | nil => exact absurd rfl h
  | cons step path => cases step <;> simp [text, String.append_assoc]

namespace Filter

/-- The first item of a list that is not good, and its position. -/
structure FirstFailing (Good : Json → Prop) (items : List Json) (i : Nat) (v : Json) : Prop where
  here : items[i]? = some v
  failing : ¬ Good v
  before : ∀ w ∈ items.take i, Good w

/-- A value is shaped like a condition, but its operator is none. -/
structure NamesUnknownOperator (v operator : Json) : Prop where
  shape : HasConditionShape v
  held : v.get? "operator" = some operator
  unknown : ∀ op : Operator, operator ≠ .string op.name

/-- What is wrong with an item of a group. -/
inductive GroupMemberFault (v : Json) : Cause → Prop where
  | unknownOperator {operator : Json} (h : NamesUnknownOperator v operator) :
    GroupMemberFault v (.unknownOperator operator)
  | notCondition (hshape : ¬ HasConditionShape v) : GroupMemberFault v .invalidGroupMember

/-- What is wrong with a member, and where below it. -/
inductive MemberFault (v : Json) : Path → Cause → Prop where
  | notObject (h : ∀ fields, v ≠ .object fields) : MemberFault v [] .unrecognizedMember
  | neither (hshape : ¬ HasConditionShape v) (hlacks : ∀ c : Combinator, Lacks v c.name) :
    MemberFault v [] .unrecognizedMember
  | unknownOperator {operator : Json} (h : NamesUnknownOperator v operator) :
    MemberFault v [] (.unknownOperator operator)
  | both (hshape : ¬ HasConditionShape v) (hholds : ∀ c : Combinator, ¬ Lacks v c.name) :
    MemberFault v [] .ambiguousGroup
  | notList {c : Combinator} {w : Json} (hshape : ¬ HasConditionShape v)
      (hother : Lacks v c.other.name) (hholds : v.get? c.name = some w) (hset : w ≠ .null)
      (hlist : ∀ items, w ≠ .array items) : MemberFault v [.key c.name] .groupNotList
  | inGroup {c : Combinator} {items : List Json} {j : Nat} {item : Json} {cause : Cause}
      (hshape : ¬ HasConditionShape v) (hother : Lacks v c.other.name)
      (hitems : v.get? c.name = some (.array items))
      (hfirst : FirstFailing IsCondition items j item)
      (hfault : GroupMemberFault item cause) : MemberFault v [.key c.name, .position j] cause

/-- A list of a raw filter, and its path, up to which reading comes: the older list is read first,
and the current one after it, unless a member of the older one is not well formed. -/
inductive ReadsUpTo (v : Json) : Path → List Json → Prop where
  | legacy {items : List Json} (h : HoldsLegacy v items) : ReadsUpTo v legacyRoot items
  | current {items : List Json}
      (hlegacy : ∀ older, HoldsLegacy v older → ∀ member ∈ older, IsMember member)
      (h : HoldsCurrent v items) : ReadsUpTo v currentRoot items

/-- The first defect of a raw filter: what is wrong with the first member that is not well
formed. -/
inductive FirstDefect (v : Json) : Defect → Prop where
  | of {root : Path} {items : List Json} {i : Nat} {member : Json} {place : Path} {cause : Cause}
      (hlist : ReadsUpTo v root items) (hfirst : FirstFailing IsMember items i member)
      (hfault : MemberFault member place cause) :
    FirstDefect v ⟨root ++ .position i :: place, cause⟩

/-! ## First items -/

section
variable {Good : Json → Prop} {items : List Json} {i : Nat} {v w : Json}

/-- The first item that fails is the head, or the head is good and it comes behind. -/
theorem firstFailing_cons_iff :
    FirstFailing Good (w :: items) i v ↔
      i = 0 ∧ w = v ∧ ¬ Good v ∨ ∃ j, i = j + 1 ∧ Good w ∧ FirstFailing Good items j v := by
  constructor
  · intro h
    cases i with
    | zero => exact .inl ⟨rfl, Option.some.inj h.here, h.failing⟩
    | succ j =>
      have hbefore := List.forall_mem_cons.1 (List.take_succ_cons ▸ h.before)
      exact .inr ⟨j, rfl, hbefore.1, h.here, h.failing, hbefore.2⟩
  · rintro (⟨rfl, rfl, hv⟩ | ⟨j, rfl, hw, h⟩)
    · exact ⟨rfl, hv, by simp⟩
    · refine ⟨h.here, h.failing, ?_⟩
      rw [List.take_succ_cons, List.forall_mem_cons]
      exact ⟨hw, h.before⟩

/-- A list has a first item that fails unless all are good. -/
theorem exists_firstFailing (h : ∃ v ∈ items, ¬ Good v) : ∃ i v, FirstFailing Good items i v := by
  induction items with
  | nil => simp at h
  | cons w items ih =>
    by_cases hw : Good w
    · obtain ⟨v, hv, hfails⟩ := h
      rcases List.mem_cons.1 hv with rfl | hv
      · exact absurd hw hfails
      · obtain ⟨i, v, hfirst⟩ := ih ⟨v, hv, hfails⟩
        exact ⟨i + 1, v, firstFailing_cons_iff.2 (.inr ⟨i, rfl, hw, hfirst⟩)⟩
    · exact ⟨0, w, firstFailing_cons_iff.2 (.inl ⟨rfl, rfl, hw⟩)⟩

/-- Which item fails first does not depend on what comes behind it. -/
theorem FirstFailing.of_take_eq {items' : List Json} (h : FirstFailing Good items i v)
    (htake : items'.take (i + 1) = items.take (i + 1)) : FirstFailing Good items' i v := by
  have hbefore : items'.take i = items.take i := by
    have hshorter := congrArg (List.take i) htake
    simpa only [List.take_take, Nat.min_eq_left (Nat.le_succ i)] using hshorter
  have hhere : (items'.take (i + 1))[i]? = some v := by
    rw [htake, List.getElem?_take_of_succ, h.here]
  rw [List.getElem?_take_of_succ] at hhere
  exact ⟨hhere, h.failing, hbefore ▸ h.before⟩

end

/-! ## Faults are told -/

section
variable {v : Json} {place : Path} {cause : Cause}

/-- A condition with an unknown operator is refused for it. -/
theorem NamesUnknownOperator.readCondition_eq {operator : Json}
    (h : NamesUnknownOperator v operator) (path : Path) :
    readCondition path v = .error ⟨path, .unknownOperator operator⟩ := by
  obtain ⟨field, operator', hfield, hne, hheld, hset⟩ := h.shape
  have hsome : conditionShape? v = some (field, operator') :=
    conditionShape?_eq_some_iff.2 ⟨hfield, hne, hheld, hset⟩
  have hsame : operator' = operator := Option.some.inj (hheld.symm.trans h.held)
  have hnone : namedOperator? operator = none := by
    rw [Option.eq_none_iff_forall_ne_some]
    intro op hop
    exact h.unknown op (namedOperator?_eq_some_iff.1 hop)
  simp only [readCondition, hsome, hsame, hnone]

/-- An item of a group is refused for what is wrong with it. -/
theorem GroupMemberFault.readGroupMember_eq (h : GroupMemberFault v cause) (path : Path) :
    readGroupMember path v = .error ⟨path, cause⟩ := by
  cases h with
  | unknownOperator h =>
    rw [readGroupMember, h.readCondition_eq]
    rfl
  | notCondition hshape =>
    rw [readGroupMember, readCondition_eq_ok_none_iff.2 hshape]
    rfl

/-- Nothing is wrong with a condition. -/
theorem GroupMemberFault.not_isCondition (h : GroupMemberFault v cause) : ¬ IsCondition v := by
  intro hcondition
  obtain ⟨n, hn⟩ := isCondition_iff_spellsGroupMember.1 hcondition
  cases (h.readGroupMember_eq []).symm.trans ((readGroupMember_eq_ok_iff [] v n).2 hn)

/-- A list is refused for the first of its items that is not good. -/
theorem FirstFailing.readEach_eq {α : Type} {read : Path → Json → Except Defect α}
    {Good : Json → Prop} (hread : ∀ path w, Good w → ∃ a, read path w = .ok a) {items : List Json}
    {j : Nat} (h : FirstFailing Good items j v) {root : Path} {i : Nat} {d : Defect}
    (hv : read (root ++ [.position (i + j)]) v = .error d) :
    readEach read root i items = .error d := by
  induction items generalizing i j with
  | nil => cases h.here
  | cons w items ih =>
    rw [readEach]
    rcases firstFailing_cons_iff.1 h with ⟨rfl, rfl, -⟩ | ⟨j, rfl, hw, hrest⟩
    · rw [Nat.add_zero] at hv
      rw [hv]
      rfl
    · obtain ⟨a, ha⟩ := hread (root ++ [.position i]) w hw
      rw [← Nat.add_assoc, Nat.add_right_comm] at hv
      rw [ha, ih hrest hv]
      rfl

/-- A value with something under one combinator and nothing under the other one is read as a
group. -/
theorem readMember_eq_readGroup {c : Combinator} {w : Json} (hshape : ¬ HasConditionShape v)
    (hother : Lacks v c.other.name) (hholds : v.get? c.name = some w) (hset : w ≠ .null)
    (path : Path) : readMember path v = readGroup path c w := by
  have hpresent : presentKey? v c.name = some w := presentKey?_eq_some_iff.2 ⟨hholds, hset⟩
  have habsent : presentKey? v c.other.name = none := presentKey?_eq_none_iff.2 hother
  rw [readMember, readCondition_eq_ok_none_iff.2 hshape]
  cases c with
  | and =>
    simp only [Combinator.name, Combinator.other] at hpresent habsent
    simp only [bind, Except.bind, hpresent, habsent]
  | or =>
    simp only [Combinator.name, Combinator.other] at hpresent habsent
    simp only [bind, Except.bind, hpresent, habsent]

/-- A value that is no object lacks everything. -/
theorem lacks_of_not_object (h : ∀ fields, v ≠ .object fields) (key : String) : Lacks v key := by
  intro w hw
  rw [get?_of_not_object h] at hw
  cases hw

/-- A value that is no object is not shaped like a condition. -/
theorem not_hasConditionShape_of_not_object (h : ∀ fields, v ≠ .object fields) :
    ¬ HasConditionShape v := by
  rintro ⟨field, operator, hfield, -⟩
  rw [get?_of_not_object h] at hfield
  cases hfield

/-- A value that is not shaped like a condition and lacks both combinators is not recognized. -/
theorem readMember_of_neither (hshape : ¬ HasConditionShape v)
    (hlacks : ∀ c : Combinator, Lacks v c.name) (path : Path) :
    readMember path v = .error ⟨path, .unrecognizedMember⟩ := by
  have hand : presentKey? v "and" = none := presentKey?_eq_none_iff.2 (hlacks .and)
  have hor : presentKey? v "or" = none := presentKey?_eq_none_iff.2 (hlacks .or)
  rw [readMember, readCondition_eq_ok_none_iff.2 hshape]
  simp only [bind, Except.bind, hand, hor]
  rfl

/-- A member is refused for what is wrong with it. -/
theorem MemberFault.readMember_eq (h : MemberFault v place cause) (path : Path) :
    readMember path v = .error ⟨path ++ place, cause⟩ := by
  cases h with
  | notObject h =>
    rw [List.append_nil]
    exact readMember_of_neither (not_hasConditionShape_of_not_object h)
      (fun c => lacks_of_not_object h c.name) path
  | neither hshape hlacks =>
    rw [List.append_nil]
    exact readMember_of_neither hshape hlacks path
  | unknownOperator h =>
    rw [readMember, h.readCondition_eq, List.append_nil]
    rfl
  | both hshape hholds =>
    have hpresent (c : Combinator) : ∃ w, presentKey? v c.name = some w := by
      rw [← Option.ne_none_iff_exists', ne_eq, presentKey?_eq_none_iff]
      exact hholds c
    obtain ⟨w, hand⟩ := hpresent .and
    obtain ⟨w', hor⟩ := hpresent .or
    simp only [Combinator.name] at hand hor
    rw [readMember, readCondition_eq_ok_none_iff.2 hshape, List.append_nil]
    simp only [bind, Except.bind, hand, hor]
    rfl
  | @notList c w hshape hother hholds hset hlist =>
    have hnone : w.array? = none := by
      cases w with
      | array items => exact absurd rfl (hlist items)
      | null | bool | int | float | string | object => rfl
    rw [readMember_eq_readGroup hshape hother hholds hset]
    simp only [readGroup, hnone]
  | @inGroup c items j item _ hshape hother hitems hfirst hfault =>
    have hread (path : Path) (w : Json) (hw : IsCondition w) :
        ∃ n, readGroupMember path w = .ok n := by
      simpa only [readGroupMember_eq_ok_iff] using isCondition_iff_spellsGroupMember.1 hw
    have hitem : readGroupMember ((path ++ [.key c.name]) ++ [.position (0 + j)]) item =
        .error ⟨path ++ [.key c.name, .position j], cause⟩ := by
      rw [hfault.readGroupMember_eq, Nat.zero_add, List.append_assoc]
      rfl
    rw [readMember_eq_readGroup hshape hother hitems (by rintro ⟨⟩)]
    simp only [readGroup, Json.array?]
    rw [hfirst.readEach_eq hread hitem]
    rfl

/-- Nothing is wrong with a member. -/
theorem MemberFault.not_isMember (h : MemberFault v place cause) : ¬ IsMember v := by
  intro hmember
  obtain ⟨n, hn⟩ := isMember_iff.1 hmember
  cases (h.readMember_eq []).symm.trans ((readMember_eq_ok_iff [] v n).2 hn)

/-- A list of members is refused for what is wrong with the first that is not well formed. -/
theorem MemberFault.readMembers_eq {member : Json} {items : List Json} {i : Nat}
    (hfault : MemberFault member place cause) (hfirst : FirstFailing IsMember items i member)
    (root : Path) : readMembers root items = .error ⟨root ++ .position i :: place, cause⟩ := by
  have hread (path : Path) (w : Json) (hw : IsMember w) : ∃ n, readMember path w = .ok n := by
    simpa only [readMember_eq_ok_iff] using isMember_iff.1 hw
  refine hfirst.readEach_eq hread ?_
  rw [hfault.readMember_eq, Nat.zero_add, List.append_assoc]
  rfl

/-- A raw filter is refused for its first defect. -/
theorem FirstDefect.ofJson_eq {d : Defect} (h : FirstDefect v d) :
    Expression.ofJson v = .error d := by
  obtain ⟨hlist, hfirst, hfault⟩ := h
  cases hlist with
  | legacy h =>
    rw [Expression.ofJson, legacyMembers?_eq_some_iff.2 h, readList?, hfault.readMembers_eq hfirst]
    rfl
  | current hlegacy h =>
    have hgood : ∀ items, legacyMembers? v = some items → ∀ item ∈ items, IsMember item := by
      simpa only [legacyMembers?_eq_some_iff] using hlegacy
    obtain ⟨nodes, hnodes⟩ := exists_rel_spellsMember_iff.2 hgood
    rw [Expression.ofJson, readList?_eq_ok_iff.2 hnodes, currentMembers?_eq_some_iff.2 h]
    change (readList? currentRoot (some _) >>= _) = _
    rw [readList?, hfault.readMembers_eq hfirst]
    rfl

end

/-! ## What is refused has a fault -/

section
variable {v : Json}

/-- A value shaped like a condition that is none names an unknown operator. -/
theorem exists_namesUnknownOperator (hshape : HasConditionShape v) (h : ¬ IsCondition v) :
    ∃ operator, NamesUnknownOperator v operator := by
  obtain ⟨field, operator, -, -, hheld, -⟩ := id hshape
  refine ⟨operator, hshape, hheld, fun op hop => ?_⟩
  rw [hop] at hheld
  exact h ⟨hshape, op, hheld⟩

/-- Something is wrong with an item of a group that is no condition. -/
theorem exists_groupMemberFault (h : ¬ IsCondition v) : ∃ cause, GroupMemberFault v cause := by
  by_cases hshape : HasConditionShape v
  · obtain ⟨operator, hunknown⟩ := exists_namesUnknownOperator hshape h
    exact ⟨_, .unknownOperator hunknown⟩
  · exact ⟨_, .notCondition hshape⟩

/-- What a value holds under the two combinators: nothing, something under both, or under one. -/
theorem held_cases (v : Json) :
    (∀ c : Combinator, Lacks v c.name) ∨ (∀ c : Combinator, ¬ Lacks v c.name) ∨
      ∃ (c : Combinator) (w : Json), v.get? c.name = some w ∧ w ≠ .null ∧ Lacks v c.other.name := by
  have hholds (c : Combinator) (h : ¬ Lacks v c.name) :
      ∃ w, v.get? c.name = some w ∧ w ≠ .null := by
    simpa [Lacks] using h
  by_cases hand : Lacks v Combinator.and.name <;> by_cases hor : Lacks v Combinator.or.name
  · exact .inl (by rintro (_ | _) <;> assumption)
  · obtain ⟨w, hw, hset⟩ := hholds .or hor
    exact .inr (.inr ⟨.or, w, hw, hset, hand⟩)
  · obtain ⟨w, hw, hset⟩ := hholds .and hand
    exact .inr (.inr ⟨.and, w, hw, hset, hor⟩)
  · exact .inr (.inl (by rintro (_ | _) <;> assumption))

/-- Something is wrong with a value that is no member. -/
theorem exists_memberFault (h : ¬ IsMember v) : ∃ place cause, MemberFault v place cause := by
  by_cases hshape : HasConditionShape v
  · obtain ⟨operator, hunknown⟩ := exists_namesUnknownOperator hshape fun hc => h (.inl hc)
    exact ⟨[], _, .unknownOperator hunknown⟩
  · obtain hlacks | hholds | ⟨c, w, hw, hset, hother⟩ := held_cases v
    · exact ⟨[], _, .neither hshape hlacks⟩
    · exact ⟨[], _, .both hshape hholds⟩
    · by_cases hlist : ∃ items, w = .array items
      · obtain ⟨items, rfl⟩ := hlist
        have hill : ∃ item ∈ items, ¬ IsCondition item := by
          by_contra hall
          simp only [not_exists, not_and, not_not] at hall
          have hgroup : IsGroup c v := ⟨hother, items, hw, hall⟩
          exact h (.inr ⟨hshape, by cases c <;> simp [hgroup]⟩)
        obtain ⟨j, item, hfirst⟩ := exists_firstFailing hill
        obtain ⟨cause, hfault⟩ := exists_groupMemberFault hfirst.failing
        exact ⟨_, cause, .inGroup hshape hother hw hfirst hfault⟩
      · exact ⟨_, _, .notList hshape hother hw hset fun items hitems => hlist ⟨items, hitems⟩⟩

/-- A list that reading comes up to, and of which a member is not well formed, has the first defect
of the filter. -/
theorem exists_firstDefect_of_readsUpTo {root : Path} {items : List Json}
    (hlist : ReadsUpTo v root items) (hill : ∃ member ∈ items, ¬ IsMember member) :
    ∃ d, FirstDefect v d := by
  obtain ⟨i, member, hfirst⟩ := exists_firstFailing hill
  obtain ⟨place, cause, hfault⟩ := exists_memberFault hfirst.failing
  exact ⟨_, .of hlist hfirst hfault⟩

/-- A raw filter that is not of the grammar has a first defect. -/
theorem exists_firstDefect (h : ¬ IsFilter v) : ∃ d, FirstDefect v d := by
  by_cases hlegacy : ∀ items, HoldsLegacy v items → ∀ item ∈ items, IsMember item
  · have hcurrent : ∃ items, HoldsCurrent v items ∧ ∃ item ∈ items, ¬ IsMember item := by
      by_contra hall
      refine h ⟨hlegacy, fun items hitems item hitem => ?_⟩
      by_contra hill
      exact hall ⟨items, hitems, item, hitem, hill⟩
    obtain ⟨items, hitems, hill⟩ := hcurrent
    exact exists_firstDefect_of_readsUpTo (.current hlegacy hitems) hill
  · simp only [not_forall] at hlegacy
    obtain ⟨items, hitems, item, hitem, hill⟩ := hlegacy
    exact exists_firstDefect_of_readsUpTo (.legacy hitems) ⟨item, hitem, hill⟩

/-- A raw filter is refused for its first defect, and only for that. -/
theorem ofJson_eq_error_iff {d : Defect} : Expression.ofJson v = .error d ↔ FirstDefect v d := by
  constructor
  · intro h
    have hnot : ¬ IsFilter v := by
      intro hfilter
      obtain ⟨⟨legacy, hlegacy⟩, current, hcurrent⟩ := isFilter_iff.1 hfilter
      cases h.symm.trans (Expression.ofJson_eq_ok_iff.2 ⟨legacy, current, hlegacy, hcurrent, rfl⟩)
    obtain ⟨d', hfirst⟩ := exists_firstDefect hnot
    cases h.symm.trans hfirst.ofJson_eq
    exact hfirst
  · exact FirstDefect.ofJson_eq

/-- The message of a defect in a list tells the path of the list, the position of the member, where
below the member the fault lies, and the fault. -/
theorem message_of_readsUpTo {root : Path} {items : List Json} (h : ReadsUpTo v root items)
    (i : Nat) (place : Path) (cause : Cause) :
    (⟨root ++ .position i :: place, cause⟩ : Defect).message =
      root.text ++ "[" ++ toString i ++ "]" ++ String.join (place.map Path.stepText) ++ ": " ++
        cause.describe := by
  have hroot : root ≠ [] := by
    cases h <;> nofun
  simp only [Defect.message, Path.text_append hroot, List.map_cons, Path.stepText,
    String.join_cons, String.append_assoc]

/-- A filter that cannot be read is refused for its first defect: that of the first member, in the
order of the notation, that is not well formed. The message of the defect tells its place and its
cause. Nothing else of the filter matters: with other members behind that one, with another current
list where it is in the older one, and with any other keys, the filter is refused as it was. -/
theorem ofJson_tells_first_defect (v : Json) :
    (∀ d, Expression.ofJson v = .error d ↔ FirstDefect v d) ∧
      ∀ {root items i member}, ReadsUpTo v root items → FirstFailing IsMember items i member →
        (∃ place cause, MemberFault member place cause ∧
          Expression.ofJson v = .error ⟨root ++ .position i :: place, cause⟩ ∧
          (⟨root ++ .position i :: place, cause⟩ : Defect).message =
            root.text ++ "[" ++ toString i ++ "]" ++ String.join (place.map Path.stepText) ++
              ": " ++ cause.describe) ∧
        ∀ v' items', ReadsUpTo v' root items' → items'.take (i + 1) = items.take (i + 1) →
          Expression.ofJson v' = Expression.ofJson v := by
  refine ⟨fun d => ofJson_eq_error_iff, fun {root items i member} hlist hfirst => ?_⟩
  obtain ⟨place, cause, hfault⟩ := exists_memberFault hfirst.failing
  have herror : Expression.ofJson v = .error ⟨root ++ .position i :: place, cause⟩ :=
    (FirstDefect.of hlist hfirst hfault).ofJson_eq
  refine ⟨⟨place, cause, hfault, herror, message_of_readsUpTo hlist i place cause⟩, ?_⟩
  intro v' items' hlist' htake
  rw [herror]
  exact (FirstDefect.of hlist' (hfirst.of_take_eq htake) hfault).ofJson_eq

/-- A condition on the field `a` with a given operator. -/
def conditionBy (operator : Json) : Json :=
  .object [("field", .string "a"), ("operator", operator)]

/-- A group of a condition, of what has a number for its operator, and of nothing. -/
def numberInGroup : Json :=
  .object [("or", .array [conditionBy (.string "is"), conditionBy (.int 1), .null])]

/-- A filter with `numberInGroup` in its older list, behind a condition and in front of further
members. Its current list has nothing for a member. -/
def manyDefects (more : List Json) : Json :=
  .object
    [("filters", .array [.null]),
      ("filter", .object
        [("filters", .array (conditionBy (.string "eq") :: numberInGroup :: more))])]

/-- With a group of both kinds behind them, the members of `manyDefects` are refused for the number,
as they are without it. -/
theorem ofJson_tells_first_defect_manyDefects :
    ∃ d, Expression.ofJson (manyDefects [.object [("and", .array []), ("or", .array [])]]) =
        .error d ∧
      d.message = "filter.filters[1].or[1]: unknown operator 1" ∧
      Expression.ofJson (manyDefects []) = .error d := by
  have hcondition (op : Operator) : IsCondition (conditionBy (.string op.name)) :=
    ⟨⟨"a", _, rfl, by decide, rfl, not_isFalsy_name op⟩, op, rfl⟩
  have hone : GroupMemberFault (conditionBy (.int 1)) (.unknownOperator (.int 1)) :=
    .unknownOperator ⟨⟨"a", _, rfl, by decide, rfl, isSet_eq_true_iff.1 rfl⟩, rfl, nofun⟩
  have hinner : FirstFailing IsCondition
      [conditionBy (.string "is"), conditionBy (.int 1), .null] 1 (conditionBy (.int 1)) := by
    refine ⟨rfl, hone.not_isCondition, fun w hw => ?_⟩
    rw [List.mem_singleton.1 hw]
    exact hcondition .is
  have hfault : MemberFault numberInGroup [.key "or", .position 1] (.unknownOperator (.int 1)) := by
    refine @MemberFault.inGroup _ .or _ 1 _ _ ?_ ?_ rfl hinner hone
    · rintro ⟨field, operator, hfield, -⟩
      cases hfield
    · rintro w ⟨⟩
  have houter (more : List Json) : FirstFailing IsMember
      (conditionBy (.string "eq") :: numberInGroup :: more) 1 numberInGroup := by
    refine ⟨rfl, hfault.not_isMember, fun w hw => ?_⟩
    rw [List.mem_singleton.1 hw]
    exact .inl (hcondition .equal)
  have hlist (more : List Json) := @ReadsUpTo.legacy (manyDefects more) _ ⟨_, rfl, rfl⟩
  obtain ⟨hfirst, hplace⟩ :=
    ofJson_tells_first_defect (manyDefects [.object [("and", .array []), ("or", .array [])]])
  have herror := (hfirst _).2 (.of (hlist _) (houter _) hfault)
  refine ⟨_, herror, rfl, ?_⟩
  rw [(hplace (hlist _) (houter _)).2 (manyDefects []) _ (hlist []) rfl]
  exact herror

end

end Filter

end SearchGateway
