import SearchGateway.Json.Basic

/-!
# Paths into a filter

A path leads from the root of a JSON value to one of its parts, by keys and positions. `Path.text`
is the path as messages spell it, `Json.follow?` the part that it leads to.
-/

namespace SearchGateway

/-- One step down into a value. -/
inductive Step where
  | key (name : String)
  | position (i : Nat)
  deriving DecidableEq, Repr

/-- Steps from the root on. -/
abbrev Path := List Step

namespace Path

/-- A step as it stands behind other steps. -/
def stepText : Step → String
  | .key name => "." ++ name
  | .position i => "[" ++ toString i ++ "]"

/-- The text of a path: keys are separated by dots, positions stand in brackets. -/
def text : Path → String
  | [] => ""
  | .key name :: rest => name ++ String.join (rest.map stepText)
  | .position i :: rest => stepText (.position i) ++ String.join (rest.map stepText)

end Path

/-- The part of a value that a step leads to. -/
def Json.step? (v : Json) : Step → Option Json
  | .key name => v.get? name
  | .position i => v.array?.bind (·[i]?)

/-- The part of a value that a path leads to. -/
def Json.follow? : Path → Json → Option Json
  | [], v => some v
  | s :: path, v => (v.step? s).bind (follow? path)

end SearchGateway
