import SearchGateway.Json.Row
import SearchGateway.Rpc.Credentials
import SearchGateway.Text.Blank
import SearchGateway.Wire.Client

/-!
# Remote function calls

A function of the database is called by posting its parameters to an address under the database's
own, of which the function's name is the last segment. Only names of ASCII letters, digits and
underscores are called, so no name can lead to another address.
-/

namespace SearchGateway.Rpc

/-- Why a call has no result. -/
inductive Fault where
  | invalidFunction (name : String)
  | unauthorized
  /-- The request found no answer. -/
  | unanswered (fault : Wire.SendFault)
  /-- The database refused the call. -/
  | refused (status : Wire.Status) (text : String)
  /-- The answer cannot be decoded. -/
  | undecodable

/-- The message of a fault. -/
def Fault.message : Fault → String
  | invalidFunction name => "Invalid function name: " ++ name
  | unauthorized => "Unauthorized"
  | unanswered fault => "ResponseError: " ++ fault.message
  | refused status text => s!"RPC failed with status {status.code}: {text}"
  | undecodable =>
    "ParsingError: Failed to parse response as JSON: error decoding response body"

/-- Whether a name can be called. -/
def isFunctionName (name : String) : Bool :=
  !name.isEmpty && name.toList.all fun c => c.isAlphanum || c == '_'

/-- Appends a path to an address, with one slash between them. -/
def appendPath (base path : String) : String :=
  Text.withoutTrailing '/' base ++ "/" ++ Text.withoutLeading '/' path

/-- Where a function is called. -/
def endpoint (base function : String) : String :=
  appendPath (appendPath base "/rest/v1/rpc") function

/-- The request that calls a function. -/
def Credentials.request (c : Credentials) (function : String) (parameters : Json) : Wire.Request :=
  { url := endpoint c.url function
    headers := [("apikey", c.apiKey), Wire.bearer c.apiKey]
    body := parameters }

/-! ## Replies -/

/-- The columns of an explanation of a refusal. -/
def explanationColumns : List String := ["message", "code", "details", "hint"]

/-- The shape of an explanation of a refusal. -/
def explanationShape : Shape :=
  .record "record"
    (explanationColumns.map fun key =>
      (key, if key = "message" then .text else .optional .text)) 4

/-- The words of a refusal: the message that the body holds, with its code, else the body itself. -/
def explanation (body : String) : String :=
  let words? : Option String := do
    let column ← (← Json.read? explanationShape (.ofText body)).row? explanationColumns 4
    let message ← (← column "message").string?
    match ← Json.optional? Json.string? (column "code") with
    | some code => some (message ++ " (" ++ code ++ ")")
    | none => some message
  let trimmed := Text.trimmed body
  words?.getD (if trimmed.isEmpty then "empty response body" else trimmed)

/-- The result that a reply brings: its text is read for a shape and decoded. -/
def resultOf {α : Type} (shape : Shape) (decode : Json → Option α) (reply : Wire.Reply) :
    Except Fault α :=
  if reply.status.isForbidden then .error .unauthorized
  else if !reply.status.isSuccess then .error (.refused reply.status (explanation reply.text))
  else
    match (Json.read? shape (.ofText reply.text)).bind decode with
    | some a => .ok a
    | none => .error .undecodable

/-- Calls a function. -/
def call {m : Type → Type} [Monad m] {α : Type} (client : Wire.Client m) (c : Credentials)
    (function : String) (parameters : Json) (shape : Shape) (decode : Json → Option α) :
    m (Except Fault α) :=
  if !isFunctionName function then return .error (.invalidFunction function)
  else do
    match ← client.post (c.request function parameters) with
    | .error f => return .error (.unanswered f)
    | .ok reply => return resultOf shape decode reply

end SearchGateway.Rpc
