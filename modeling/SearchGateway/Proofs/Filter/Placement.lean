import SearchGateway.Proofs.Filter.NormalForm

/-!
# Where a defect lies

A reader stands at a path, and its defects lie below that path. What it finds does not depend on
where it stands: reading at a path is reading at the root, with every defect moved below the path
(`Located`). The members of a filter are thus read alike in both notations (`Notates.ofJson_eq`):
the two readings differ in nothing but the path of the list, which no position belongs to.
-/

namespace SearchGateway

/-- Whether a step leads to the value of a key. -/
def Step.isKey : Step → Bool
  | .key _ => true
  | .position _ => false

/-- The part of a path from its first position on. In the path of a defect, what comes before leads
to the list of members. -/
def Path.belowList (path : Path) : Path := path.dropWhile Step.isKey

namespace Filter

/-- The defect of a part of a value, as a defect of the whole: the part lies at the path `root`. -/
def Defect.under (root : Path) (d : Defect) : Defect := ⟨root ++ d.path, d.cause⟩

/-- Two defects have one cause, in one place of a list of members. -/
structure Defect.SamePlace (d d' : Defect) : Prop where
  cause : d'.cause = d.cause
  path : d'.path.belowList = d.path.belowList

/-- A reader finds at a path what it finds at the root, and tells its defects below the path. -/
def Located {α : Type} (read : Path → Json → Except Defect α) : Prop :=
  ∀ path v, read path v = (read [] v).mapError (.under path)

section
variable {α β : Type}

/-- A defect of a part of a part. -/
theorem Defect.under_append (root path : Path) (d : Defect) :
    d.under (root ++ path) = (d.under path).under root := by
  simp [Defect.under]

/-- Moving the defects below one path, and then below another one. -/
theorem mapError_under_append (x : Except Defect α) (root path : Path) :
    x.mapError (Defect.under (root ++ path)) =
      (x.mapError (Defect.under path)).mapError (Defect.under root) := by
  cases x with
  | error d => exact congrArg Except.error (d.under_append root path)
  | ok a => rfl

/-- Errors are rewritten in each of two computations in a row. -/
theorem mapError_bind {ε ε' : Type} (x : Except ε α) (f : α → Except ε β) (g : ε → ε') :
    (x >>= f).mapError g = x.mapError g >>= fun a => (f a).mapError g := by
  cases x <;> rfl

/-- Errors and results are rewritten apart. -/
theorem mapError_map {ε ε' : Type} (x : Except ε α) (f : α → β) (g : ε → ε') :
    (x.map f).mapError g = (x.mapError g).map f := by
  cases x <;> rfl

end

/-! ## Readers -/

/-- A condition is read alike at every path. -/
theorem located_readCondition : Located readCondition := by
  intro path v
  unfold readCondition
  cases conditionShape? v with
  | none => rfl
  | some shape =>
    obtain ⟨field, operator⟩ := shape
    dsimp only
    cases namedOperator? operator with
    | none => simp [Except.mapError, Defect.under]
    | some op => rfl

/-- A list is read alike at every path if its items are. -/
theorem readEach_under {α : Type} {read : Path → Json → Except Defect α} (h : Located read)
    (root : Path) (i : Nat) (vs : List Json) :
    readEach read root i vs = (readEach read [] i vs).mapError (.under root) := by
  induction vs generalizing i with
  | nil => rfl
  | cons v vs ih =>
    simp only [readEach, mapError_bind]
    rw [h (root ++ _), h ([] ++ _), mapError_under_append, List.nil_append, ih]
    rfl

/-- A member of a group is read alike at every path. -/
theorem located_readGroupMember : Located readGroupMember := by
  intro path v
  unfold readGroupMember
  rw [located_readCondition path, mapError_bind]
  refine congrArg (_ >>= ·) (funext fun c => ?_)
  cases c with
  | none => simp [Defect.under, Except.mapError, throw, throwThe, MonadExceptOf.throw]
  | some c => rfl

/-- The list of a group is read alike at every path. -/
theorem located_readGroup (combinator : Combinator) :
    Located fun path v => readGroup path combinator v := by
  intro path v
  dsimp only
  unfold readGroup
  cases v.array? with
  | none => simp [Defect.under, Except.mapError]
  | some members =>
    dsimp only
    rw [readEach_under located_readGroupMember (path ++ [_]),
      readEach_under located_readGroupMember ([] ++ [_]), mapError_under_append, List.nil_append,
      mapError_map]

/-- A member is read alike at every path. -/
theorem located_readMember : Located readMember := by
  intro path v
  unfold readMember
  rw [located_readCondition path, mapError_bind]
  refine congrArg (_ >>= ·) (funext fun c => ?_)
  cases c with
  | some c => rfl
  | none =>
    dsimp only
    cases presentKey? v "and" with
    | none =>
      cases presentKey? v "or" with
      | none => simp [Defect.under, Except.mapError, throw, throwThe, MonadExceptOf.throw]
      | some members => exact located_readGroup .or path members
    | some members =>
      cases presentKey? v "or" with
      | none => exact located_readGroup .and path members
      | some others => simp [Defect.under, Except.mapError, throw, throwThe, MonadExceptOf.throw]

/-! ## The two notations -/

/-- A filter in one of the two notations of a list of members, which lies at the path. -/
inductive Notates (members : List Json) : Path → Json → Prop where
  | current : Notates members currentRoot (ofMembers members)
  | older : Notates members legacyRoot (.object [("filter", ofMembers members)])

section
variable {members : List Json} {root root' : Path} {v v' : Json}

/-- Both notations are read as the list, with the defects below its path. -/
theorem Notates.ofJson_eq (h : Notates members root v) :
    Expression.ofJson v =
      ((readMembers [] members).mapError (.under root)).map fun nodes => some ⟨nodes⟩ := by
  have hread : (readMembers [] members).mapError (.under root) = readMembers root members :=
    (readEach_under located_readMember root 0 members).symm
  rw [hread]
  unfold Expression.ofJson
  cases h with
  | current =>
    rw [legacyMembers?_ofMembers, currentMembers?_ofMembers]
    dsimp only [readList?]
    generalize readMembers currentRoot members = outcome
    cases outcome <;> rfl
  | older =>
    have hlegacy : legacyMembers? (.object [("filter", ofMembers members)]) = some members := rfl
    have hcurrent : currentMembers? (.object [("filter", ofMembers members)]) = none := rfl
    rw [hlegacy, hcurrent]
    dsimp only [readList?]
    generalize readMembers legacyRoot members = outcome
    cases outcome <;> rfl

/-- Both notations have one normal form. -/
theorem Notates.normalForm_eq (h : Notates members root v) : normalForm v = ofMembers members := by
  cases h <;> rfl

/-- A filter is set in both notations. -/
theorem Notates.isSet_eq_true (h : Notates members root v) : v.isSet = true := by
  cases h <;> rfl

/-- The path of the list is made of keys. -/
theorem Notates.isKey_of_mem_root (h : Notates members root v) :
    ∀ step ∈ root, step.isKey = true := by
  cases h <;> decide

/-- Below keys alone, a path goes on from its first position as it did before. -/
theorem belowList_append {root path : Path} (h : ∀ step ∈ root, step.isKey = true) :
    Path.belowList (root ++ path) = path.belowList :=
  List.dropWhile_append_of_pos h

/-- A defect lies at one place of the list in both notations. -/
theorem Notates.samePlace_under (h : Notates members root v) (h' : Notates members root' v')
    (d : Defect) : (d.under root).SamePlace (d.under root') where
  cause := rfl
  path := by
    simp only [Defect.under]
    rw [belowList_append h.isKey_of_mem_root, belowList_append h'.isKey_of_mem_root]

end

end Filter

end SearchGateway
