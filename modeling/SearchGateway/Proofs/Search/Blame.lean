import SearchGateway.Proofs.Filter.Misfit
import SearchGateway.Proofs.Search.Strictness

/-!
# Where a search says its filter is wrong

A search that is refused for its filter tells a path and a cause. Whoever sent the filter follows
the path in it, so the path should lead to the part that the filter is refused for, and the part
should be as the cause says: `PointsInto`.

The path of a defect of reading does (`FirstDefect.pointsInto`). That of a misfit does where the
list that counts is the current one. Where it is the older one, the path misses its first key: it
leads nowhere, or into a current list that the search does not use (`search_pointsInto_iff`).
-/

namespace SearchGateway

/-- Of two paths in a row, the second one starts where the first one leads to. -/
theorem Json.follow?_append (path rest : Path) (v : Json) :
    v.follow? (path ++ rest) = (v.follow? path).bind (·.follow? rest) := by
  induction path generalizing v with
  | nil => rfl
  | cons step path ih =>
    change (v.step? step).bind (follow? (path ++ rest)) =
      ((v.step? step).bind (follow? path)).bind _
    rw [Option.bind_assoc]
    exact Option.bind_congr fun w _ => ih w

/-- The path of a single key leads to its value. -/
theorem Json.follow?_key (v : Json) (key : String) : v.follow? [.key key] = v.get? key :=
  Option.bind_fun_some _

namespace Filter

/-- A part of a filter is as a cause says. -/
inductive Cause.Blames : Cause → Json → Prop where
  | unrecognizedMember {v : Json} (hshape : ¬ HasConditionShape v)
      (hlacks : ∀ c : Combinator, Lacks v c.name) : Blames .unrecognizedMember v
  | unknownOperator {v operator : Json} (h : NamesUnknownOperator v operator) :
    Blames (.unknownOperator operator) v
  | ambiguousGroup {v : Json} (hshape : ¬ HasConditionShape v)
      (hholds : ∀ c : Combinator, ¬ Lacks v c.name) : Blames .ambiguousGroup v
  | groupNotList {v : Json} (hset : v ≠ .null) (hlist : ∀ items, v ≠ .array items) :
    Blames .groupNotList v
  | invalidGroupMember {v : Json} (hshape : ¬ HasConditionShape v) : Blames .invalidGroupMember v
  | invalidValue {v : Json} {c : Condition} (h : SpellsCondition v c) (hmisfit : c.fits = false) :
    Blames (.invalidValue c.operator) v

/-- What a raw filter is refused for, and where in the filter: its first defect, or, in a filter
that can be read, the first misfit of the list that counts. -/
inductive RefusedFor (v : Json) : Defect → Prop where
  | unreadable {d : Defect} (h : FirstDefect v d) : RefusedFor v d
  | misfit {root : Path} {d : Defect} (hfilter : IsFilter v) (h : FirstMisfit v root d) :
    RefusedFor v (d.under root)

/-- A defect points to what a raw filter is refused for: its path leads to a part of the filter,
which is the one at fault, and which is as the cause says. -/
structure PointsInto (v : Json) (d : Defect) : Prop where
  refused : RefusedFor v d
  leads : ∃ w, v.follow? d.path = some w ∧ d.cause.Blames w

section
variable {v member : Json} {root place : Path} {items : List Json} {cause : Cause} {d : Defect}

/-- The path of the current list leads to it. -/
theorem HoldsCurrent.follow?_eq (h : HoldsCurrent v items) :
    v.follow? currentRoot = some (.array items) := by
  rw [currentRoot, Json.follow?_key]
  exact h

/-- The path of the older list leads to it. -/
theorem HoldsLegacy.follow?_eq (h : HoldsLegacy v items) :
    v.follow? legacyRoot = some (.array items) := by
  obtain ⟨inner, hinner, hitems⟩ := h
  change (v.get? "filter").bind (·.follow? currentRoot) = _
  rw [hinner]
  exact hitems.follow?_eq

/-- The path of a list that is read leads to it. -/
theorem ReadsUpTo.follow?_eq (h : ReadsUpTo v root items) :
    v.follow? root = some (.array items) := by
  cases h with
  | legacy h => exact h.follow?_eq
  | current _ h => exact h.follow?_eq

/-- The path of the list that counts leads to it. -/
theorem CountsAt.follow?_eq (h : CountsAt v root items) : v.follow? root = some (.array items) := by
  cases h with
  | legacy h => exact h.follow?_eq
  | current _ h => exact h.follow?_eq

/-- A path below an item of a list leads where it leads from the item. -/
theorem follow?_item {i : Nat} (hlist : v.follow? root = some (.array items))
    (hitem : items[i]? = some member) (place : Path) :
    v.follow? (root ++ .position i :: place) = member.follow? place := by
  rw [Json.follow?_append, hlist]
  change (items[i]?).bind (·.follow? place) = _
  rw [hitem]
  rfl

/-- A path below an item of a group leads where it leads from the item. -/
theorem follow?_inGroup {combinator : Combinator} {j : Nat} {item : Json}
    (hitems : v.get? combinator.name = some (.array items)) (hitem : items[j]? = some item) :
    v.follow? [.key combinator.name, .position j] = some item := by
  have hlist : v.follow? [.key combinator.name] = some (.array items) := by
    rw [Json.follow?_key, hitems]
  exact follow?_item hlist hitem []

/-- An item of a group is as its fault says. -/
theorem GroupMemberFault.blames (h : GroupMemberFault v cause) : cause.Blames v := by
  cases h with
  | unknownOperator h => exact .unknownOperator h
  | notCondition hshape => exact .invalidGroupMember hshape

/-- The place of a fault leads to a part of the member that is as the fault says. -/
theorem MemberFault.leads (h : MemberFault v place cause) :
    ∃ w, v.follow? place = some w ∧ cause.Blames w := by
  cases h with
  | notObject h =>
    exact ⟨v, rfl, .unrecognizedMember (not_hasConditionShape_of_not_object h) fun c =>
      lacks_of_not_object h c.name⟩
  | neither hshape hlacks => exact ⟨v, rfl, .unrecognizedMember hshape hlacks⟩
  | unknownOperator h => exact ⟨v, rfl, .unknownOperator h⟩
  | both hshape hholds => exact ⟨v, rfl, .ambiguousGroup hshape hholds⟩
  | @notList c w _ _ hholds hset hlist =>
    refine ⟨w, ?_, .groupNotList hset hlist⟩
    rw [Json.follow?_key, hholds]
  | inGroup _ _ hitems hfirst hfault =>
    exact ⟨_, follow?_inGroup hitems hfirst.here, hfault.blames⟩

/-- The place of a misfit leads to the condition that does not fit. -/
theorem MemberMisfit.leads {c : Condition} (h : MemberMisfit v place c) :
    ∃ w, v.follow? place = some w ∧ (Cause.invalidValue c.operator).Blames w := by
  cases h with
  | alone h hmisfit => exact ⟨v, rfl, .invalidValue h hmisfit⟩
  | inGroup _ hitems hfirst h hmisfit =>
    exact ⟨_, follow?_inGroup hitems hfirst.here, .invalidValue h hmisfit⟩

/-- The first defect points to what the filter is refused for. -/
theorem FirstDefect.pointsInto (h : FirstDefect v d) : PointsInto v d := by
  refine ⟨.unreadable h, ?_⟩
  obtain ⟨hlist, hfirst, hfault⟩ := h
  rw [follow?_item hlist.follow?_eq hfirst.here]
  exact hfault.leads

/-- The first misfit, at the path of the list that counts, points to what the filter is refused
for. -/
theorem FirstMisfit.pointsInto (hfilter : IsFilter v) (h : FirstMisfit v root d) :
    PointsInto v (d.under root) := by
  refine ⟨.misfit hfilter h, ?_⟩
  obtain ⟨hlist, hfirst, hmisfit⟩ := h
  rw [Defect.under, follow?_item hlist.follow?_eq hfirst.here]
  exact hmisfit.leads

/-- A first defect is no misfit. -/
theorem FirstDefect.not_isMisfit (h : FirstDefect v d) : ¬ d.IsMisfit :=
  Expression.not_isMisfit_of_ofJson h.ofJson_eq

/-- A misfit at the path of the current list points to nothing that a filter with an older list is
refused for. -/
theorem not_pointsInto_of_holdsLegacy {below : Defect} (hlegacy : HoldsLegacy v items)
    (hmisfit : below.IsMisfit) : ¬ PointsInto v (below.under currentRoot) := by
  rintro ⟨hrefused, -⟩
  generalize hd : below.under currentRoot = d at hrefused
  cases hrefused with
  | unreadable h =>
    subst hd
    exact h.not_isMisfit hmisfit
  | misfit _ h =>
    obtain ⟨hlist, -, -⟩ := h
    obtain ⟨rfl, -⟩ := CountsAt.unique (.legacy hlegacy) hlist
    -- the path starts with `filter` in the one and with `filters` in the other
    exact absurd (congrArg Defect.path hd) (by simp [Defect.under, currentRoot, legacyRoot])

end

end Filter

open SearchGateway.Filter (HoldsLegacy PointsInto)

/-- What a policy finds in a filter is its first defect, or the first misfit of the list that
counts, told as if this were the current one. -/
theorem checkFilter_defect_cases {policy : Policy} {v : Json} {d : Filter.Defect}
    (h : policy.checkFilter v = .error d) :
    Filter.FirstDefect v d ∨ policy.strictFilterValues = true ∧ Filter.IsFilter v ∧
      ∃ root below, Filter.FirstMisfit v root below ∧ d = below.under Filter.currentRoot := by
  rcases checkFilter_eq_error_iff.1 h with hread | ⟨hstrict, e, hread, hcheck⟩
  · exact .inl (Filter.ofJson_eq_error_iff.1 hread)
  · exact .inr ⟨hstrict, (Filter.ofJson_eq_ok_some_iff.1 hread).1,
      Filter.exists_firstMisfit hread hcheck⟩

section
variable {policy : Policy} {r : SearchRequest} {d : Filter.Defect}
variable {σ : Type} {e : Embedder (StateM σ)} {q : QueryEngine (StateM σ)} {s t : σ}

/-- A search that ends with a defect of its filter has a filter that does not pass. -/
theorem checkFilter_of_search
    (h : (search policy e q r).run s = (.error (.invalidFilter d), t)) :
    policy.checkFilter r.filter = .error d := by
  cases haccept : policy.accept r with
  | error f =>
    rw [run_search_of_refused haccept] at h
    cases h
    exact checkFilter_of_accept haccept
  | ok p => cases isRefusal_of_search haccept h

/-- A search that is refused for its filter points to what the filter is refused for, unless the
defect is a misfit and the filter has an older list. With values unchecked it always does. Where it
does not, the path that leads to the condition in question starts with one more key, `filter`. -/
theorem search_pointsInto_iff (h : (search policy e q r).run s = (.error (.invalidFilter d), t)) :
    (PointsInto r.filter d ↔ ¬ (d.IsMisfit ∧ ∃ items, HoldsLegacy r.filter items)) ∧
      (policy.strictFilterValues = false → PointsInto r.filter d) ∧
      (¬ PointsInto r.filter d → PointsInto r.filter (d.under [.key "filter"])) := by
  rcases checkFilter_defect_cases (checkFilter_of_search h) with
    hdefect | ⟨hstrict, hfilter, root, below, hmisfit, rfl⟩
  · have hpoints := hdefect.pointsInto
    refine ⟨iff_of_true hpoints fun hboth => hdefect.not_isMisfit hboth.1, fun _ => hpoints, ?_⟩
    exact fun hnot => absurd hpoints hnot
  · obtain ⟨items, hlist⟩ := hmisfit.exists_countsAt
    have hpoints := hmisfit.pointsInto hfilter
    have hlenient : policy.strictFilterValues = false →
        PointsInto r.filter (below.under Filter.currentRoot) := by
      intro hlenient
      rw [hstrict] at hlenient
      cases hlenient
    cases hlist with
    | current hnone =>
      refine ⟨iff_of_true hpoints ?_, hlenient, fun hnot => absurd hpoints hnot⟩
      rintro ⟨-, older, holder⟩
      exact hnone older holder
    | legacy holder =>
      have hnot := Filter.not_pointsInto_of_holdsLegacy holder hmisfit.isMisfit
      refine ⟨iff_of_false hnot ?_, hlenient, fun _ => ?_⟩
      · exact fun hnone => hnone ⟨hmisfit.isMisfit, items, holder⟩
      · rw [← Filter.Defect.under_append]
        exact hpoints

/-- A condition on the language of a document. -/
def langAmong (value : Json) : Json :=
  .object [("field", .string "lang"), ("operator", .string "in"), ("value", value)]

/-- A condition that fits. -/
def langInList : Json := langAmong (.array [.string "en"])

/-- A filter whose older list has a condition that does not fit, with further keys. -/
def misfitBeside (keys : List (String × Json)) : Json :=
  .object (keys ++ [("filter", .object [("filters", .array [langAmong (.string "en")])])])

/-- A search that checks values, with collaborators that answer with nothing. -/
def strictSearch (v : Json) : StateM Nat (Except Failure Answer) :=
  search ⟨10, 100, true, .engine⟩ ⟨2, fun _ => return .ok []⟩
    ⟨fun _ => return .ok [], fun _ => return .ok ⟨[], []⟩⟩ ⟨"pricing", v, none, 1, 1, 50, "cosine"⟩

/-- A misfit in the older list is told without the first key of its path. -/
theorem search_pointsInto_iff_misfitBeside :
    ∃ d, (strictSearch (misfitBeside [])).run 0 = (.error (.invalidFilter d), 0) ∧
      ¬ PointsInto (misfitBeside []) d ∧
      PointsInto (misfitBeside []) (d.under [.key "filter"]) := by
  have hrun : (strictSearch (misfitBeside [])).run 0 =
      (.error (.invalidFilter ⟨[.key "filters", .position 0], .invalidValue .oneOf⟩), 0) := rfl
  obtain ⟨hpoints, -, hbelow⟩ := search_pointsInto_iff hrun
  have hnot : ¬ PointsInto (misfitBeside []) _ := fun h => hpoints.1 h ⟨⟨_, rfl⟩, _, _, rfl, rfl⟩
  exact ⟨_, hrun, hnot, hbelow hnot⟩

/-- Without that key, the path leads nowhere, or to a condition of a current list that does fit. -/
theorem not_pointsInto_misfitBeside :
    (∃ d, (strictSearch (misfitBeside [])).run 0 = (.error (.invalidFilter d), 0) ∧
      ¬ PointsInto (misfitBeside []) d ∧ (misfitBeside []).follow? d.path = none) ∧
    ∃ d, (strictSearch (misfitBeside [("filters", .array [langInList])])).run 0 =
        (.error (.invalidFilter d), 0) ∧
      ¬ PointsInto (misfitBeside [("filters", .array [langInList])]) d ∧
      (misfitBeside [("filters", .array [langInList])]).follow? d.path = some langInList ∧
      ∀ c, Filter.SpellsCondition langInList c → c.fits = true := by
  have hnot (keys : List (String × Json)) (h : (misfitBeside keys).get? "filter" =
        some (.object [("filters", .array [langAmong (.string "en")])])) :
      ¬ PointsInto (misfitBeside keys)
        (Filter.Defect.under Filter.currentRoot ⟨[.position 0], .invalidValue .oneOf⟩) :=
    Filter.not_pointsInto_of_holdsLegacy ⟨_, h, rfl⟩ ⟨_, rfl⟩
  have hfits (c : Filter.Condition) (h : Filter.SpellsCondition langInList c) : c.fits = true := by
    have hread : Filter.SpellsCondition langInList ⟨"lang", .oneOf, .array [.string "en"]⟩ :=
      ⟨rfl, by decide, rfl, rfl⟩
    rw [h.unique hread]
    rfl
  exact ⟨⟨_, rfl, hnot _ rfl, rfl⟩, _, rfl, hnot _ rfl, rfl, hfits⟩

end

end SearchGateway
