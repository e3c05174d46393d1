import SearchGateway.Json.Reader

/-!
# Rows

A record in a `Json` is an object, whose unknown keys do not matter, or the array of its columns in
order. `Json.row?` is the look-up by column that both forms give; an array must have its first
`atLeast` columns and none beyond the last.
-/

namespace SearchGateway.Json

/-- The look-up by column of a record. -/
def row? (columns : List String) (atLeast : Nat) : Json → Option (String → Option Json)
  | object fields => some fun key => fields.lookup key
  | array items =>
    if atLeast ≤ items.length ∧ items.length ≤ columns.length then
      some fun key => (columns.zip items).lookup key
    else none
  | _ => none

/-- The value of a column that may be absent or `null`. -/
def optional? {α : Type} (decode : Json → Option α) : Option Json → Option (Option α)
  | none | some null => some none
  | some v => (decode v).map some

/-- The name of a case without contents: a string, or an object with that one key and `null`. -/
def caseName? : Json → Option String
  | string s => some s
  | object [(s, null)] => some s
  | _ => none

end SearchGateway.Json
