import SearchGateway.Wire.Client

/-!
# Origins

Which origins may read responses. Without a list of origins, all may; an origin that no header field
can carry is left out of the list first. The wildcard stands for no origin of a list.
-/

namespace SearchGateway.Server

/-- The origins that may read responses. -/
inductive Origins where
  | all
  | only (origins : List String)

namespace Origins

/-- The text that stands for all origins. -/
def wildcard : String := "*"

/-- The origins of a list, unless the wildcard is among them. -/
def ofList? (origins : List String) : Option Origins :=
  match origins.filter Wire.isHeaderValue with
  | [] => some all
  | valid => if valid.contains wildcard then none else some (only valid)

/-- What a response to a request from an origin grants. -/
def grant? (allowed : Origins) (origin : Option String) : Option String :=
  match allowed with
  | all => some wildcard
  | only origins => origin.filter origins.contains

theorem grant?_all (origin : Option String) : grant? all origin = some wildcard := rfl

/-- A list grants an origin exactly if it holds it. -/
theorem grant?_only {origins : List String} {origin o : String} :
    grant? (only origins) (some origin) = some o ↔ o = origin ∧ origin ∈ origins := by
  simp only [grant?, Option.filter_some]
  split
  · rename_i h
    simp only [List.contains_iff_mem] at h
    simp [h, eq_comm]
  · rename_i h
    simp only [List.contains_iff_mem] at h
    simp [h]

end Origins

end SearchGateway.Server
