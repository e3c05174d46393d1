import SearchGateway.Json.Reader
import SearchGateway.Search.Service
import SearchGateway.Wire.Client

/-!
# The embedding provider

An `Embedder` that asks a provider of embeddings over the network. One request is sent for every
text that is not blank. A reply that is no success is told with its status and, where the body says
so, the provider's own words.
-/

namespace SearchGateway

/-- A provider of embeddings, and the model to ask for. -/
structure EmbeddingProvider where
  url : String
  apiKey : String
  model : String
  dimensions : Nat

namespace EmbeddingProvider

/-- The model that is asked for where nothing else is said. -/
def defaultModel : String := "text-embedding-3-small"

/-- The number of components of the default model. -/
def defaultDimensions : Nat := 1536

/-- The address of the provider where nothing else is said. -/
def defaultUrl : String := "https://api.openai.com/v1"

/-- The provider with everything but the key left at its default. -/
def ofKey (apiKey : String) : EmbeddingProvider :=
  ⟨defaultUrl, apiKey, defaultModel, defaultDimensions⟩

/-- Where embeddings are asked for. -/
def endpoint (p : EmbeddingProvider) : String := Text.withoutTrailing '/' p.url ++ "/embeddings"

/-- The request for the embedding of a text. -/
def request (p : EmbeddingProvider) (text : String) : Wire.Request :=
  { url := p.endpoint
    headers := [Wire.bearer p.apiKey]
    body :=
      .object
        [("dimensions", .int p.dimensions), ("input", .string text), ("model", .string p.model)] }

/-- The shape of a successful reply. -/
def replyShape : Shape :=
  .record "record"
    [("data",
      .list (.record "record" [("embedding", .list .number)] 1))] 1

/-- The shape of a reply that explains a failure. -/
def faultShape : Shape :=
  .record "record"
    [("error", .record "record" [("message", .text)] 1)] 1

/-- The columns of a record with a single one. -/
def only? (key : String) (v : Json) : Option Json := (v.row? [key] 1).bind (· key)

/-- The single nearest to a number; a literal that is no integer is a double first. -/
def component? : Json → Option Float32
  | .int n => some (.ofBits (.ofNat ((Decimal.ofInt n).toBits .single)))
  | .float x => some (BinaryFormat.toSingle x)
  | _ => none

/-- A list of numbers as singles. -/
def vector? (v : Json) : Option (List Float32) := v.listOf? component?

/-- The vectors of a successful reply. -/
def vectors? (text : String) : Option (List (List Float32)) := do
  let reply ← Json.read? replyShape (.ofText text)
  (← only? "data" reply).listOf? fun item => (only? "embedding" item).bind vector?

/-- The provider's words for a failure: the message that the body holds, else the body. -/
def explanation (text : String) : String :=
  let words? : Option String := do
    let reply ← Json.read? faultShape (.ofText text)
    let fault ← only? "error" reply
    (← only? "message" fault).string?
  words?.getD text

/-- The embedding that a reply brings. -/
def vectorOf (reply : Wire.Reply) : Except Failure (List Float32) :=
  if !reply.status.isSuccess then
    .error (.embedding (reply.status.text ++ ": " ++ explanation reply.text))
  else
    match vectors? reply.text with
    | none => .error (.embedding "Invalid response: error decoding response body")
    | some [] => .error (.embedding "No embedding in response")
    | some (v :: _) => .ok v

/-- The provider as an embedder. -/
def embedder {m : Type → Type} [Monad m] (p : EmbeddingProvider) (client : Wire.Client m) :
    Embedder m where
  dimensions := p.dimensions
  embed text :=
    if (Text.trimmed text).isEmpty then return .error (.embedding "Cannot embed empty text")
    else do
      match ← client.post (p.request text) with
      | .error f => return .error (.embedding f.message)
      | .ok reply => return vectorOf reply

end EmbeddingProvider

end SearchGateway
