import SearchGateway.Filter.Operator
import SearchGateway.Filter.Path
import SearchGateway.Json.Printer

/-!
# Filter expressions

A filter restricts a search to rows whose metadata satisfy conditions. Conditions stand alone or in
groups, which join them by `and` or `or`; the members of an expression are joined by `and`. The type
admits groups inside groups, which the notation does not.

A `Defect` is what is wrong with a raw filter, and where.
-/

namespace SearchGateway.Filter

/-- How the members of a group are joined. -/
inductive Combinator where
  | and
  | or
  deriving DecidableEq, Repr

/-- The key of a group. -/
def Combinator.name : Combinator → String
  | and => "and"
  | or => "or"

/-- A comparison of a metadata field with a value. -/
structure Condition where
  field : String
  operator : Operator
  value : Json

/-- A member of an expression. -/
inductive Node where
  | condition (c : Condition)
  | group (combinator : Combinator) (members : List Node)

/-- A filter that has been read. -/
structure Expression where
  members : List Node

mutual

/-- The number of conditions of a member. -/
def Node.conditionCount : Node → Nat
  | .condition _ => 1
  | .group _ members => conditionCountOf members

/-- The number of conditions of a list of members. -/
def conditionCountOf : List Node → Nat
  | [] => 0
  | n :: ns => n.conditionCount + conditionCountOf ns

end

/-- The number of conditions, those in groups included. -/
def Expression.conditionCount (e : Expression) : Nat := conditionCountOf e.members

/-- What is wrong with a part of a filter. -/
inductive Cause where
  /-- Neither a condition nor a group. -/
  | unrecognizedMember
  /-- A condition whose operator is not one of the known names. -/
  | unknownOperator (operator : Json)
  /-- A group with both combinators. -/
  | ambiguousGroup
  /-- A group whose members are not a list. -/
  | groupNotList
  /-- A member of a group that is no condition. -/
  | invalidGroupMember
  /-- A condition whose value has not the shape that its operator expects. -/
  | invalidValue (operator : Operator)

/-- A fault of a filter and the part that it lies in. -/
structure Defect where
  path : Path
  cause : Cause

/-- The words for a cause. -/
def Cause.describe : Cause → String
  | unrecognizedMember => "expected a condition (field + operator) or a group (and / or)"
  | unknownOperator operator => "unknown operator " ++ operator.compact
  | ambiguousGroup => "a group must have exactly one of 'and' or 'or'"
  | groupNotList => "expected a list of conditions"
  | invalidGroupMember => "group members must be conditions with a field and an operator"
  | invalidValue op => "operator '" ++ op.name ++ "' expects " ++ op.shape.describe

/-- The message of a defect. -/
def Defect.message (d : Defect) : String := d.path.text ++ ": " ++ d.cause.describe

end SearchGateway.Filter
