import SearchGateway.Search.Request

/-!
# Failures of a search

A request can be refused before any collaborator is called, a collaborator can fail, or the
configuration can be unusable. The failure of a collaborator is told with the step at which it arose
and both forms of the request's filter (`Failure.during`); once told so, it stays as it is.
-/

namespace SearchGateway

/-- A step that calls a collaborator. -/
inductive Stage where
  | embedding
  | queryEngine
  deriving DecidableEq, Repr

/-- The name of a step. -/
def Stage.name : Stage → String
  | embedding => "embedding"
  | queryEngine => "query_engine"

/-- A filter as the client wrote it, and its normal form. -/
structure FilterForms where
  raw : Json
  normal : Json

/-- Both forms of a raw filter. -/
def FilterForms.of (v : Json) : FilterForms := ⟨v, Filter.normalForm v⟩

/-- Why a search has no answer. -/
inductive Failure where
  | missingQuery
  | unknownDistanceMethod (name : String)
  | invalidFilter (defect : Filter.Defect)
  | embedding (text : String)
  | queryEngine (text : String)
  | collaborator (stage : Stage) (text : String) (filters : FilterForms)
  | configuration (text : String)

namespace Failure

/-- The message of a failure. -/
def message : Failure → String
  | missingQuery => "Query parameter is required"
  | unknownDistanceMethod name =>
    "Invalid distance method: " ++ name ++ ". Supported methods are: " ++ DistanceMethod.supported
  | invalidFilter _ =>
    "Invalid filter schema. Please check the filter structure and operators."
  | embedding text => "Embedding generation failed: " ++ text
  | queryEngine text => "Query engine error: " ++ text
  | collaborator stage text _ => "Search failed during " ++ stage.name ++ ": " ++ text
  | configuration text => "Configuration error: " ++ text

/-- Tells a failure with the step at which it arose and the request's filter. -/
def during (stage : Stage) (filters : FilterForms) : Failure → Failure
  | collaborator s text fs => collaborator s text fs
  | f => collaborator stage f.message filters

end Failure

end SearchGateway
