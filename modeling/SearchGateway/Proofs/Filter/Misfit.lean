import SearchGateway.Proofs.Filter.Placement
import SearchGateway.Proofs.Filter.Rejection
import SearchGateway.Proofs.Filter.Values

/-!
# The first misfit of a filter

The check of values goes through an expression, which has forgotten which list it was read from, and
tells the path of a condition as if that were the current one. Here its misfit is found in the raw
filter: `MemberMisfit` is the condition of a member that does not fit, and where below the member it
stands, and `FirstMisfit` is that of the first member that has one, with the path of the list that
counts. The check finds the same condition (`FirstMisfit.checkValues_eq`), and its path differs in
the root alone.
-/

namespace SearchGateway.Filter

/-- The value of an item of a group fits, if the item is a condition. -/
def ItemFits (v : Json) : Prop := ∀ c, SpellsCondition v c → c.fits = true

/-- The values of all conditions of a member fit. -/
def MemberFits (v : Json) : Prop := ∀ c, Spelled v c → c.fits = true

/-- The first condition of a member whose value does not fit, and where below the member it is. -/
inductive MemberMisfit (v : Json) : Path → Condition → Prop where
  | alone {c : Condition} (h : SpellsCondition v c) (hmisfit : c.fits = false) :
    MemberMisfit v [] c
  | inGroup {combinator : Combinator} {items : List Json} {j : Nat} {item : Json} {c : Condition}
      (hshape : ¬ HasConditionShape v) (hitems : v.get? combinator.name = some (.array items))
      (hfirst : FirstFailing ItemFits items j item) (h : SpellsCondition item c)
      (hmisfit : c.fits = false) : MemberMisfit v [.key combinator.name, .position j] c

/-- The list that counts, and its path: the older one, or else the current one. -/
inductive CountsAt (v : Json) : Path → List Json → Prop where
  | legacy {items : List Json} (h : HoldsLegacy v items) : CountsAt v legacyRoot items
  | current {items : List Json} (hlegacy : ∀ older, ¬ HoldsLegacy v older)
      (h : HoldsCurrent v items) : CountsAt v currentRoot items

/-- The first misfit of a raw filter stands below a path in the list that counts. -/
inductive FirstMisfit (v : Json) (root : Path) : Defect → Prop where
  | of {items : List Json} {i : Nat} {member : Json} {place : Path} {c : Condition}
      (hlist : CountsAt v root items) (hfirst : FirstFailing MemberFits items i member)
      (hmisfit : MemberMisfit member place c) :
    FirstMisfit v root ⟨.position i :: place, .invalidValue c.operator⟩

section
variable {v : Json} {n : Node}

/-- The check finds nothing in an item of a group that fits. -/
theorem SpellsGroupMember.misfit?_eq_none (h : SpellsGroupMember v n) (hfits : ItemFits v)
    (path : Path) : n.misfit? path = none := by
  obtain ⟨hc⟩ := h
  rw [Node.misfit?, hfits _ hc]
  rfl

/-- The check finds a condition that does not fit. -/
theorem misfit?_condition {c : Condition} (h : c.fits = false) (path : Path) :
    (Node.condition c).misfit? path = some ⟨path, .invalidValue c.operator⟩ := by
  rw [Node.misfit?, h]
  rfl

section
variable {Spells : Json → Node → Prop} {Good : Json → Prop} {items : List Json} {ns : List Node}
  {root : Path}

/-- The check finds nothing in a list of good items. -/
theorem misfitAmong?_eq_none (hspells : List.Forall₂ Spells items ns) (h : ∀ v ∈ items, Good v)
    (hgood : ∀ v n, Spells v n → Good v → ∀ path, n.misfit? path = none) (i : Nat) :
    misfitAmong? root i ns = none := by
  induction hspells generalizing i with
  | nil => rfl
  | cons hv _ ih =>
    rw [List.forall_mem_cons] at h
    rw [misfitAmong?, hgood _ _ hv h.1, Option.none_or]
    exact ih h.2 (i + 1)

/-- In a list, the check finds what it finds in the first item that is not good. -/
theorem FirstFailing.misfitAmong?_eq {j : Nat} (h : FirstFailing Good items j v)
    (hspells : List.Forall₂ Spells items ns)
    (hgood : ∀ v n, Spells v n → Good v → ∀ path, n.misfit? path = none) {i : Nat} {d : Defect}
    (hv : ∀ n, Spells v n → n.misfit? (root ++ [.position (i + j)]) = some d) :
    misfitAmong? root i ns = some d := by
  induction hspells generalizing i j with
  | nil => cases h.here
  | cons hw _ ih =>
    rw [misfitAmong?]
    rcases firstFailing_cons_iff.1 h with ⟨rfl, rfl, -⟩ | ⟨j, rfl, hgoodw, hrest⟩
    · rw [Nat.add_zero] at hv
      rw [hv _ hw, Option.some_or]
    · rw [← Nat.add_assoc, Nat.add_right_comm] at hv
      rw [hgood _ _ hw hgoodw, Option.none_or]
      exact ih hrest hv

end

/-- The check finds nothing in a member that fits. -/
theorem SpellsMember.misfit?_eq_none (h : SpellsMember v n) (hfits : MemberFits v)
    (path : Path) : n.misfit? path = none := by
  cases h with
  | condition hc =>
    rw [Node.misfit?, hfits _ (.alone hc)]
    rfl
  | group hshape hitems _ hmembers =>
    rw [Node.misfit?]
    refine misfitAmong?_eq_none hmembers ?_ (fun _ _ => SpellsGroupMember.misfit?_eq_none) 0
    intro item hitem c hc
    exact hfits c (.grouped hshape hitems hitem hc)

/-- The check finds the first condition of a member that does not fit. -/
theorem MemberMisfit.misfit?_eq {place : Path} {c : Condition} (h : MemberMisfit v place c)
    (hspells : SpellsMember v n) (path : Path) :
    n.misfit? path = some ⟨path ++ place, .invalidValue c.operator⟩ := by
  cases h with
  | alone hc hmisfit =>
    cases hspells with
    | condition hc' =>
      rw [hc'.unique hc, misfit?_condition hmisfit, List.append_nil]
    | group hshape => exact absurd hc.hasConditionShape hshape
  | @inGroup combinator items j item _ hshape hitems hfirst hc hmisfit =>
    cases hspells with
    | condition hc' => exact absurd hc'.hasConditionShape hshape
    | @group combinator' items' members _ hitems' hother hmembers =>
      rcases combinator'.eq_or_eq_other combinator with rfl | rfl
      · have hsame : items' = items := by simpa [hitems] using hitems'.symm
        rw [hsame] at hmembers
        rw [Node.misfit?]
        refine hfirst.misfitAmong?_eq hmembers (fun _ _ => SpellsGroupMember.misfit?_eq_none) ?_
        rintro _ ⟨hc'⟩
        rw [hc'.unique hc, misfit?_condition hmisfit, Nat.zero_add, List.append_assoc]
        rfl
      · cases hother _ hitems

/-- A member that does not fit has a first condition that does not. -/
theorem exists_memberMisfit (h : ¬ MemberFits v) : ∃ place c, MemberMisfit v place c := by
  unfold MemberFits at h
  simp only [not_forall, Bool.not_eq_true] at h
  obtain ⟨c, hspelled, hmisfit⟩ := h
  cases hspelled with
  | alone hc => exact ⟨[], c, .alone hc hmisfit⟩
  | @grouped combinator items item hshape hitems hitem hc =>
    have hfails : ¬ ItemFits item := by
      intro hfits
      rw [hfits c hc] at hmisfit
      cases hmisfit
    obtain ⟨j, first, hfirst⟩ := exists_firstFailing ⟨item, hitem, hfails⟩
    have hmisfits := hfirst.failing
    unfold ItemFits at hmisfits
    simp only [not_forall, Bool.not_eq_true] at hmisfits
    obtain ⟨c', hc', hmisfit'⟩ := hmisfits
    exact ⟨_, c', .inGroup hshape hitems hfirst hc' hmisfit'⟩

end

/-! ## The list that counts -/

section
variable {v : Json} {root root' : Path} {items items' : List Json} {e : Expression} {d : Defect}

/-- There is one list that counts. -/
theorem CountsAt.unique (h : CountsAt v root items) (h' : CountsAt v root' items') :
    root' = root ∧ items' = items := by
  cases h with
  | legacy h =>
    cases h' with
    | legacy h' =>
      rw [← legacyMembers?_eq_some_iff] at h h'
      exact ⟨rfl, Option.some.inj (h'.symm.trans h)⟩
    | current hnone => exact absurd h (hnone _)
  | current hnone h =>
    cases h' with
    | legacy h' => exact absurd h' (hnone _)
    | current _ h' =>
      rw [← currentMembers?_eq_some_iff] at h h'
      exact ⟨rfl, Option.some.inj (h'.symm.trans h)⟩

/-- A first misfit is in the list that counts. -/
theorem FirstMisfit.exists_countsAt (h : FirstMisfit v root d) :
    ∃ items, CountsAt v root items := by
  obtain ⟨hlist, -, -⟩ := h
  exact ⟨_, hlist⟩

/-- A first misfit is a misfit. -/
theorem FirstMisfit.isMisfit (h : FirstMisfit v root d) : d.IsMisfit := by
  obtain ⟨-, -, -⟩ := h
  exact ⟨_, rfl⟩

/-- What is read as an expression has a list that counts, of which it is read. -/
theorem exists_countsAt_of_ofJson (h : Expression.ofJson v = .ok (some e)) :
    ∃ root items, CountsAt v root items ∧ List.Forall₂ SpellsMember items e.members := by
  obtain ⟨-, items, hlegacy | ⟨hnone, hcurrent⟩, hmembers⟩ := ofJson_eq_ok_some_iff.1 h
  · exact ⟨_, items, .legacy hlegacy, hmembers⟩
  · exact ⟨_, items, .current hnone hcurrent, hmembers⟩

/-- The check finds the first misfit, and tells its path as if the list that counts were the current
one. -/
theorem FirstMisfit.checkValues_eq (h : FirstMisfit v root d)
    (hread : Expression.ofJson v = .ok (some e)) :
    e.checkValues = .error (d.under currentRoot) := by
  obtain @⟨items, i, member, place, c, hlist, hfirst, hmisfit⟩ := h
  obtain ⟨root', items', hlist', hmembers⟩ := exists_countsAt_of_ofJson hread
  rw [(hlist.unique hlist').2] at hmembers
  have hfound : misfitAmong? currentRoot 0 e.members =
      some ⟨currentRoot ++ .position i :: place, .invalidValue c.operator⟩ := by
    refine hfirst.misfitAmong?_eq hmembers (fun _ _ => SpellsMember.misfit?_eq_none) ?_
    intro n hn
    rw [hmisfit.misfit?_eq hn, Nat.zero_add, List.append_assoc]
    rfl
  rw [Expression.checkValues, hfound]
  rfl

/-- What the check finds is the first misfit. -/
theorem exists_firstMisfit (hread : Expression.ofJson v = .ok (some e))
    (hcheck : e.checkValues = .error d) :
    ∃ root below, FirstMisfit v root below ∧ d = below.under currentRoot := by
  obtain ⟨root, items, hlist, hmembers⟩ := exists_countsAt_of_ofJson hread
  have hmisfits : ∃ member ∈ items, ¬ MemberFits member := by
    by_contra hall
    simp only [not_exists, not_and, not_not] at hall
    have hnone : misfitAmong? currentRoot 0 e.members = none :=
      misfitAmong?_eq_none hmembers hall (fun _ _ => SpellsMember.misfit?_eq_none) 0
    rw [Expression.checkValues, hnone] at hcheck
    cases hcheck
  obtain ⟨i, member, hfirst⟩ := exists_firstFailing hmisfits
  obtain ⟨place, c, hmisfit⟩ := exists_memberMisfit hfirst.failing
  have hbelow : FirstMisfit v root _ := .of hlist hfirst hmisfit
  refine ⟨root, _, hbelow, ?_⟩
  rw [hbelow.checkValues_eq hread] at hcheck
  exact (Except.error.inj hcheck).symm

end

end SearchGateway.Filter
