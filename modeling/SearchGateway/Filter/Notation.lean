import SearchGateway.Filter.Basic

/-!
# Reading filters

A raw filter keeps its members in the list `filters`, or, in the older notation, in the list
`filters` of the object `filter`. Both lists are read where both are present, so neither can hold
anything unread; the older one wins. A value with neither list restricts nothing.

A member that is shaped like a condition is one, whatever else it holds; only other members are
looked at as groups.
-/

namespace SearchGateway.Filter

/-- The path of the list of members. -/
def currentRoot : Path := [.key "filters"]

/-- The path of the list of members in the older notation. -/
def legacyRoot : Path := [.key "filter", .key "filters"]

/-- The list of members, if there is one. -/
def currentMembers? (v : Json) : Option (List Json) := (v.get? "filters").bind Json.array?

/-- The list of members in the older notation, if there is one. -/
def legacyMembers? (v : Json) : Option (List Json) :=
  ((v.get? "filter").bind (·.get? "filters")).bind Json.array?

/-- Field and operator of an object that is shaped like a condition: its `field` is a string that is
not empty, and its `operator` does not count as absent. -/
def conditionShape? (v : Json) : Option (String × Json) :=
  match v.get? "field", v.get? "operator" with
  | some (.string field), some operator =>
    if field ≠ "" ∧ operator.isSet = true then some (field, operator) else none
  | _, _ => none

/-- The value of a key, with `null` counting as absent. -/
def presentKey? (v : Json) (key : String) : Option Json :=
  (v.get? key).filter fun w => !w.isNull

/-- The operator that a value names. -/
def namedOperator? (v : Json) : Option Operator := v.string?.bind Operator.ofName?

/-- Reads an object as a condition; none where it has not the shape of one. -/
def readCondition (path : Path) (v : Json) : Except Defect (Option Condition) :=
  match conditionShape? v with
  | none => .ok none
  | some (field, operator) =>
    match namedOperator? operator with
    | some op => .ok (some ⟨field, op, (v.get? "value").getD .null⟩)
    | none => .error ⟨path, .unknownOperator operator⟩

/-- Applies a reader to each item of a list, with the path of the item. -/
def readEach {α : Type} (read : Path → Json → Except Defect α) (root : Path) :
    Nat → List Json → Except Defect (List α)
  | _, [] => .ok []
  | i, v :: vs => do
    let a ← read (root ++ [.position i]) v
    let as ← readEach read root (i + 1) vs
    return a :: as

/-- Reads a member of a group. -/
def readGroupMember (path : Path) (v : Json) : Except Defect Node := do
  match ← readCondition path v with
  | some c => return .condition c
  | none => throw ⟨path, .invalidGroupMember⟩

/-- Reads the members of a group. -/
def readGroup (path : Path) (combinator : Combinator) (members : Json) : Except Defect Node :=
  let path := path ++ [.key combinator.name]
  match members.array? with
  | none => .error ⟨path, .groupNotList⟩
  | some members => (readEach readGroupMember path 0 members).map (.group combinator)

/-- Reads a member. -/
def readMember (path : Path) (v : Json) : Except Defect Node := do
  match ← readCondition path v with
  | some c => return .condition c
  | none =>
    match presentKey? v "and", presentKey? v "or" with
    | some _, some _ => throw ⟨path, .ambiguousGroup⟩
    | some members, none => readGroup path .and members
    | none, some members => readGroup path .or members
    | none, none => throw ⟨path, .unrecognizedMember⟩

/-- Reads the members of a list. -/
def readMembers (root : Path) (members : List Json) : Except Defect (List Node) :=
  readEach readMember root 0 members

/-- Reads a list that may be absent. -/
def readList? (root : Path) : Option (List Json) → Except Defect (Option (List Node))
  | none => .ok none
  | some members => (readMembers root members).map some

/-- Reads a raw filter; none where it restricts nothing. -/
def Expression.ofJson (v : Json) : Except Defect (Option Expression) := do
  let legacy ← readList? legacyRoot (legacyMembers? v)
  let current ← readList? currentRoot (currentMembers? v)
  return (legacy.or current).map Expression.mk

/-- Whether a raw filter can be read. -/
def isReadable (v : Json) : Bool := (Expression.ofJson v).isOk

end SearchGateway.Filter
