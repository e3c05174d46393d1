import SearchGateway.Proofs.Filter.NormalForm

/-!
# The values of a filter

`Expression.checkValues` stops at the first misfit. `Node.placed` lists the conditions of a member
in the order of the notation, groups inside groups included, each with its path;
`misfitAmong?_eq` says that the first misfit is the first of them that does not fit, so the check
passes exactly if all fit (`Expression.checkValues_eq_ok_iff`). For a filter that was read, these
are the conditions that its members spell, alone or in a group (`Spelled`).
-/

namespace SearchGateway.Filter

/-! ## Conditions in their places -/

mutual

/-- The conditions of a member that stands at a path, each with its own path, in order. -/
def Node.placed (path : Path) : Node → List (Path × Condition)
  | .condition c => [(path, c)]
  | .group combinator members => placedAmong (path ++ [.key combinator.name]) 0 members

/-- The conditions of a list of members, of which the first one stands at the given position. -/
def placedAmong (root : Path) (i : Nat) : List Node → List (Path × Condition)
  | [] => []
  | n :: ns => n.placed (root ++ [.position i]) ++ placedAmong root (i + 1) ns

end

/-- The misfit of a condition that does not fit, and its place. -/
def misfitAt (place : Path × Condition) : Defect := ⟨place.1, .invalidValue place.2.operator⟩

mutual

/-- The first misfit of a member is that of its first condition that does not fit. -/
theorem Node.misfit?_eq (path : Path) (n : Node) :
    n.misfit? path = ((n.placed path).find? fun place => !place.2.fits).map misfitAt := by
  cases n with
  | condition c =>
    rw [Node.misfit?, Node.placed]
    cases hfits : c.fits <;> simp [hfits, misfitAt]
  | group combinator members =>
    rw [Node.misfit?, Node.placed]
    exact misfitAmong?_eq _ 0 members

/-- The first misfit of a list is that of the first of its conditions that does not fit. -/
theorem misfitAmong?_eq (root : Path) (i : Nat) (ns : List Node) :
    misfitAmong? root i ns =
      ((placedAmong root i ns).find? fun place => !place.2.fits).map misfitAt := by
  cases ns with
  | nil => rfl
  | cons n ns =>
    rw [misfitAmong?, placedAmong, List.find?_append, Option.map_or, Node.misfit?_eq,
      misfitAmong?_eq]

end

namespace Expression

/-- The conditions of an expression, in order. -/
def placed (e : Expression) : List (Path × Condition) := placedAmong currentRoot 0 e.members

/-- The check stops at the first condition that does not fit. -/
theorem checkValues_eq_error_iff {e : Expression} {d : Defect} :
    e.checkValues = .error d ↔
      ∃ place, e.placed.find? (fun place => !place.2.fits) = some place ∧ misfitAt place = d := by
  unfold checkValues placed
  rw [misfitAmong?_eq]
  cases (placedAmong currentRoot 0 e.members).find? fun place => !place.2.fits <;> simp

/-- The check passes exactly if all conditions fit. -/
theorem checkValues_eq_ok_iff {e : Expression} :
    e.checkValues = .ok () ↔ ∀ place ∈ e.placed, place.2.fits = true := by
  unfold checkValues placed
  rw [misfitAmong?_eq]
  cases hfirst : (placedAmong currentRoot 0 e.members).find? fun place => !place.2.fits with
  | none => simpa using hfirst
  | some place =>
    simp only [Option.map_some, reduceCtorEq, false_iff]
    intro hall
    have hmisfit := List.find?_some hfirst
    rw [hall place (List.mem_of_find?_eq_some hfirst)] at hmisfit
    cases hmisfit

end Expression

/-! ## Conditions as they are written -/

/-- A member spells a condition: it is one, or a group with an item that is. -/
inductive Spelled (v : Json) (c : Condition) : Prop where
  | alone (h : SpellsCondition v c)
  | grouped {combinator : Combinator} {items : List Json} {item : Json}
      (hshape : ¬ HasConditionShape v) (hitems : v.get? combinator.name = some (.array items))
      (hitem : item ∈ items) (h : SpellsCondition item c)

/-- The condition that a value spells is the only one. -/
theorem SpellsCondition.unique {v : Json} {c c' : Condition} (h : SpellsCondition v c)
    (h' : SpellsCondition v c') : c = c' := by
  have hread : readCondition [] v = .ok (some c) := readCondition_eq_ok_some_iff.2 h
  have hread' : readCondition [] v = .ok (some c') := readCondition_eq_ok_some_iff.2 h'
  rw [hread'] at hread
  cases hread
  rfl

/-- The conditions of a list that was read are those of its items. -/
theorem exists_mem_placedAmong_iff {Spells : Json → Node → Prop}
    {Has : Json → Condition → Prop} (hhas : ∀ path v n c, Spells v n →
      ((∃ place ∈ n.placed path, place.2 = c) ↔ Has v c))
    {items : List Json} {ns : List Node} (hspells : List.Forall₂ Spells items ns) (root : Path)
    (i : Nat) (c : Condition) :
    (∃ place ∈ placedAmong root i ns, place.2 = c) ↔ ∃ v ∈ items, Has v c := by
  induction hspells generalizing i with
  | nil => simp [placedAmong]
  | @cons v n items ns hspells hrest ih =>
    simp only [placedAmong, List.mem_append, or_and_right, exists_or, List.exists_mem_cons_iff]
    exact or_congr (hhas _ v n c hspells) (ih (i + 1))

/-- A condition that was read is all that it has. -/
theorem SpellsCondition.exists_mem_placed_iff {v : Json} {c : Condition} (h : SpellsCondition v c)
    (path : Path) (c' : Condition) :
    (∃ place ∈ (Node.condition c).placed path, place.2 = c') ↔ SpellsCondition v c' := by
  simp only [Node.placed, List.mem_singleton, exists_eq_left]
  constructor
  · rintro rfl
    exact h
  · exact h.unique

/-- The conditions of a member that was read are those that it spells. -/
theorem SpellsMember.exists_mem_placed_iff {v : Json} {n : Node} (h : SpellsMember v n)
    (path : Path) (c : Condition) : (∃ place ∈ n.placed path, place.2 = c) ↔ Spelled v c := by
  cases h with
  | condition h =>
    rw [h.exists_mem_placed_iff]
    constructor
    · exact .alone
    · rintro (h' | ⟨hshape, -, -, -⟩)
      · exact h'
      · exact absurd h.hasConditionShape hshape
  | @group combinator items members hshape hitems hother hmembers =>
    have hhas : ∀ path v n c, SpellsGroupMember v n →
        ((∃ place ∈ n.placed path, place.2 = c) ↔ SpellsCondition v c) := by
      rintro path v _ c ⟨h⟩
      exact h.exists_mem_placed_iff path c
    rw [Node.placed, exists_mem_placedAmong_iff hhas hmembers]
    constructor
    · rintro ⟨item, hitem, h⟩
      exact .grouped hshape hitems hitem h
    · rintro (h | @⟨combinator', _, item, -, hitems', hitem, h⟩)
      · exact absurd h.hasConditionShape hshape
      · rcases combinator.eq_or_eq_other combinator' with rfl | rfl
        · rw [hitems] at hitems'
          cases hitems'
          exact ⟨item, hitem, h⟩
        · cases hother _ hitems'

/-- A raw filter has a condition, in the list that a query engine is sent. -/
def HasCondition (v : Json) (c : Condition) : Prop :=
  ∃ members, currentMembers? (normalForm v) = some members ∧ ∃ member ∈ members, Spelled member c

/-- The conditions of an expression that was read are those of the raw filter. -/
theorem Expression.exists_mem_placed_iff {v : Json} {e : Expression}
    (h : Expression.ofJson v = .ok (some e)) (c : Condition) :
    (∃ place ∈ e.placed, place.2 = c) ↔ HasCondition v c := by
  obtain ⟨legacy, current, hlegacy, hcurrent, he⟩ :=
    Expression.ofJson_eq_ok_iff.1 (ofJson_normalForm h)
  rw [legacyMembers?_normalForm] at hlegacy
  cases hlegacy
  obtain ⟨members, rfl, rfl⟩ := Option.map_eq_some_iff.1 he.symm
  unfold HasCondition
  generalize currentMembers? (normalForm v) = items at hcurrent
  cases hcurrent with
  | some hmembers =>
    simp only [Option.some.injEq, exists_eq_left']
    exact exists_mem_placedAmong_iff (fun path v n c h => h.exists_mem_placed_iff path c) hmembers
      currentRoot 0 c

/-- A filter that restricts nothing has no condition. -/
theorem not_hasCondition_of_ofJson_eq_none {v : Json} (h : Expression.ofJson v = .ok none)
    (c : Condition) : ¬ HasCondition v c := by
  obtain ⟨legacy, current, hlegacy, hcurrent, he⟩ :=
    Expression.ofJson_eq_ok_iff.1 (ofJson_normalForm h)
  rw [legacyMembers?_normalForm] at hlegacy
  cases hlegacy
  rintro ⟨members, hmembers, -⟩
  rw [hmembers] at hcurrent
  cases hcurrent
  cases he

/-! ## Defects of reading -/

/-- A defect says that a value does not fit. -/
def Defect.IsMisfit (d : Defect) : Prop := ∃ op, d.cause = .invalidValue op

/-- A reader does not look whether values fit. -/
def ReadsAnyValue {α : Type} (read : Path → Json → Except Defect α) : Prop :=
  ∀ path v d, read path v = .error d → ¬ d.IsMisfit

/-- Reading the items of a list does not look whether values fit, if reading an item does not. -/
theorem ReadsAnyValue.readEach {α : Type} {read : Path → Json → Except Defect α}
    (hread : ReadsAnyValue read) {root : Path} {i : Nat} {vs : List Json} {d : Defect}
    (h : readEach read root i vs = .error d) : ¬ d.IsMisfit := by
  induction vs generalizing i with
  | nil => cases h
  | cons v vs ih =>
    rw [Filter.readEach, bind_eq_error_iff] at h
    rcases h with hv | ⟨a, -, h⟩
    · exact hread _ v d hv
    · rw [bind_eq_error_iff] at h
      rcases h with hvs | ⟨as, -, h⟩
      · exact ih hvs
      · cases h

/-- Reading a condition does not look whether its value fits. -/
theorem readsAnyValue_readCondition : ReadsAnyValue readCondition := by
  rintro path v d h ⟨op, hcause⟩
  unfold readCondition at h
  split at h
  · cases h
  · split at h
    · cases h
    · cases h
      cases hcause

/-- Reading a member of a group does not look whether its value fits. -/
theorem readsAnyValue_readGroupMember : ReadsAnyValue readGroupMember := by
  intro path v d h
  rw [readGroupMember, bind_eq_error_iff] at h
  rcases h with h | ⟨c, -, h⟩
  · exact readsAnyValue_readCondition path v d h
  · cases c with
    | some c => cases h
    | none =>
      cases h
      rintro ⟨op, ⟨⟩⟩

/-- Reading a group does not look whether its values fit. -/
theorem readsAnyValue_readGroup (combinator : Combinator) :
    ReadsAnyValue fun path => readGroup path combinator := by
  intro path v d h
  change readGroup path combinator v = .error d at h
  unfold readGroup at h
  dsimp only at h
  split at h
  · cases h
    rintro ⟨op, ⟨⟩⟩
  · exact readsAnyValue_readGroupMember.readEach (map_eq_error_iff.1 h)

/-- Reading a member does not look whether values fit. -/
theorem readsAnyValue_readMember : ReadsAnyValue readMember := by
  intro path v d h
  rw [readMember, bind_eq_error_iff] at h
  rcases h with h | ⟨c, -, h⟩
  · exact readsAnyValue_readCondition path v d h
  · cases c with
    | some c => cases h
    | none =>
      dsimp only at h
      split at h
      · cases h
        rintro ⟨op, ⟨⟩⟩
      · exact readsAnyValue_readGroup .and path _ d h
      · exact readsAnyValue_readGroup .or path _ d h
      · cases h
        rintro ⟨op, ⟨⟩⟩

/-- Reading a raw filter does not look whether values fit. -/
theorem Expression.not_isMisfit_of_ofJson {v : Json} {d : Defect}
    (h : Expression.ofJson v = .error d) : ¬ d.IsMisfit := by
  have hlist : ∀ {root : Path} {items : Option (List Json)}, readList? root items = .error d →
      ¬ d.IsMisfit := by
    intro root items h
    cases items with
    | none => cases h
    | some items => exact readsAnyValue_readMember.readEach (map_eq_error_iff.1 h)
  rw [Expression.ofJson, bind_eq_error_iff] at h
  rcases h with h | ⟨legacy, -, h⟩
  · exact hlist h
  · rw [bind_eq_error_iff] at h
    rcases h with h | ⟨current, -, h⟩
    · exact hlist h
    · cases h

end SearchGateway.Filter
