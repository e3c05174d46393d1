import SearchGateway.Filter.Notation

/-!
# The normal form of a raw filter

A query engine is sent one notation only: the object with the list `filters`. The older notation is
brought to it, the current one loses its other keys, and a value that counts as absent becomes the
empty object. A value in neither notation is passed on as it is.
-/

namespace SearchGateway.Filter

/-- The filter that restricts nothing. -/
def unrestricted : Json := .object []

/-- The current notation of a list of members. -/
def ofMembers (members : List Json) : Json := .object [("filters", .array members)]

/-- The normal form of a raw filter. -/
def normalForm (v : Json) : Json :=
  if v.isSet then
    match legacyMembers? v, currentMembers? v with
    | some members, _ => ofMembers members
    | none, some members => ofMembers members
    | none, none => v
  else unrestricted

/-- Whether a filter says anything at all. -/
def isApplied : Json → Bool
  | .object fields => !fields.isEmpty
  | .array items => !items.isEmpty
  | .string s => !s.isEmpty
  | _ => false

end SearchGateway.Filter
