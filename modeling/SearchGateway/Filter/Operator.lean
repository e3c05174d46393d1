import SearchGateway.Json.Basic

/-!
# Filter operators

The closed set of operators, their names, and the shape of value that each of them expects.
-/

namespace SearchGateway.Filter

/-- The comparison that a condition makes. -/
inductive Operator where
  | equal
  | notEqual
  | greater
  | greaterOrEqual
  | less
  | lessOrEqual
  | like
  | likeIgnoringCase
  | oneOf
  | contains
  | is
  | not
  | fullText
  | matching
  deriving DecidableEq, Repr

namespace Operator

/-- Every operator. -/
def all : List Operator :=
  [equal, notEqual, greater, greaterOrEqual, less, lessOrEqual, like, likeIgnoringCase, oneOf,
    contains, is, not, fullText, matching]

/-- The name of an operator in a filter. -/
def name : Operator → String
  | equal => "eq"
  | notEqual => "neq"
  | greater => "gt"
  | greaterOrEqual => "gte"
  | less => "lt"
  | lessOrEqual => "lte"
  | like => "like"
  | likeIgnoringCase => "ilike"
  | oneOf => "in"
  | contains => "contains"
  | is => "is"
  | not => "not"
  | fullText => "fts"
  | matching => "match"

/-- The operator of a name; case matters. -/
def ofName? (s : String) : Option Operator := all.find? (·.name == s)

theorem ofName?_name (op : Operator) : ofName? op.name = some op := by cases op <;> decide

end Operator

/-- What an operator expects of its value. -/
inductive ValueShape where
  | scalar
  | comparable
  | text
  | scalarList
  | nullOrBool
  | any
  deriving DecidableEq, Repr

namespace ValueShape

/-- Whether a value has the shape. -/
def accepts : ValueShape → Json → Bool
  | scalar, v => v.isScalar
  | comparable, .int _ | comparable, .float _ | comparable, .string _ => true
  | comparable, _ => false
  | text, .string _ => true
  | text, _ => false
  | scalarList, .array items => items.all Json.isScalar
  | scalarList, _ => false
  | nullOrBool, .null | nullOrBool, .bool _ => true
  | nullOrBool, _ => false
  | any, _ => true

/-- The shape in words. -/
def describe : ValueShape → String
  | scalar => "a string, number, boolean or null"
  | comparable => "a number or string"
  | text => "a string"
  | scalarList => "an array of strings, numbers, booleans or nulls"
  | nullOrBool => "null or a boolean"
  | any => "any value"

end ValueShape

/-- The shape that an operator expects. -/
def Operator.shape : Operator → ValueShape
  | equal | notEqual => .scalar
  | greater | greaterOrEqual | less | lessOrEqual => .comparable
  | like | likeIgnoringCase | fullText | matching => .text
  | oneOf => .scalarList
  | is => .nullOrBool
  | contains | not => .any

end SearchGateway.Filter
