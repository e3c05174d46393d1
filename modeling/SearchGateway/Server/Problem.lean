import SearchGateway.Search.Failure
import SearchGateway.Wire.Status

/-!
# Problems told to clients

Every answer that is no result is a problem: a status, a code that programs can rely on, and a
message. Some problems have details, and the failure of a collaborator also says at which step it
arose and for which filter. `Problem.redacted` keeps such internals from clients.
-/

namespace SearchGateway.Server

/-- What went wrong, for programs. -/
inductive ProblemCode where
  | missingQuery
  | invalidDistanceMethod
  | invalidFilter
  | invalidRequestBody
  | payloadTooLarge
  | queryEngineFailure
  | unexpectedFailure
  | notFound
  | methodNotAllowed
  deriving DecidableEq, Repr

/-- The text of a code. -/
def ProblemCode.name : ProblemCode → String
  | missingQuery => "MISSING_QUERY"
  | invalidDistanceMethod => "INVALID_DISTANCE_METHOD"
  | invalidFilter => "INVALID_FILTER"
  | invalidRequestBody => "INVALID_REQUEST_BODY"
  | payloadTooLarge => "PAYLOAD_TOO_LARGE"
  | queryEngineFailure => "QUERY_ENGINE_FAILURE"
  | unexpectedFailure => "UNEXPECTED_FAILURE"
  | notFound => "NOT_FOUND"
  | methodNotAllowed => "METHOD_NOT_ALLOWED"

/-- The step at which a collaborator failed, and the filter it was asked for. -/
structure Circumstances where
  stage : Stage
  filters : FilterForms

/-- A problem. -/
structure Problem where
  status : Wire.Status
  code : ProblemCode
  message : String
  details : Option String
  circumstances : Option Circumstances

namespace Problem

/-- A problem that says nothing but its message. -/
def plain (status : Nat) (code : ProblemCode) (message : String) : Problem :=
  ⟨⟨status⟩, code, message, none, none⟩

/-- Adds details. -/
def withDetails (p : Problem) (details : String) : Problem := { p with details := some details }

/-- Nothing is served at the path. -/
def notFound : Problem := plain 404 .notFound "Not found"

/-- The path does not serve the method. -/
def methodNotAllowed : Problem := plain 405 .methodNotAllowed "Method not allowed"

/-- Something broke off. -/
def internal : Problem := plain 500 .unexpectedFailure "Internal server error"

/-- The body is longer than the server reads. -/
def payloadTooLarge : Problem :=
  (plain 413 .payloadTooLarge "Failed to read request body").withDetails
    "Failed to buffer the request body: length limit exceeded"

/-- The body is no request. -/
def invalidBody (details : String) : Problem :=
  (plain 400 .invalidRequestBody "Invalid JSON request body").withDetails details

/-- A collaborator failed. -/
def searchFailed (details : String) : Problem :=
  (plain 500 .queryEngineFailure "Search failed").withDetails details

/-- The problem that a failed search is told as. -/
def ofFailure (f : Failure) : Problem :=
  match f with
  | .missingQuery => plain 400 .missingQuery f.message
  | .unknownDistanceMethod _ => plain 400 .invalidDistanceMethod f.message
  | .invalidFilter defect => (plain 400 .invalidFilter f.message).withDetails defect.message
  | .collaborator stage text filters =>
    { searchFailed text with circumstances := some ⟨stage, filters⟩ }
  | .embedding _ | .queryEngine _ => searchFailed f.message
  | .configuration _ => internal.withDetails f.message

/-- Without the internals of a failure on the server's side, unless they are to be shown. -/
def redacted (expose : Bool) (p : Problem) : Problem :=
  if p.status.isServerError && !expose then { p with details := none, circumstances := none }
  else p

/-- A problem in one line. -/
def summary (p : Problem) : String := p.status.text ++ ": " ++ p.message

/-- The circumstances as a value. -/
def circumstancesJson (c : Circumstances) : Json :=
  .object
    [("original_filter", c.filters.raw), ("stage", .string c.stage.name),
      ("transformed_filter", c.filters.normal)]

/-- A field that is left out where it has no value. -/
def fieldIfAny (key : String) (value : Option Json) : List (String × Json) :=
  value.toList.map fun v => (key, v)

/-- The body of an answer that tells a problem. -/
def toJson (p : Problem) : Json :=
  .object
    ([("code", .string p.code.name)] ++
      fieldIfAny "debug_info" (p.circumstances.map circumstancesJson) ++
      fieldIfAny "details" (p.details.map .string) ++
      [("error", .string p.message)])

end Problem

end SearchGateway.Server
