import SearchGateway.Embedding
import SearchGateway.Rpc.Engine
import SearchGateway.Server.Handler
import SearchGateway.Settings.Basic

/-!
# Starting a server

The collaborators of a server come from its settings; the keys that these leave empty come from the
environment. A server whose keys cannot be found does not start, nor does one whose list of origins
holds the wildcard.
-/

namespace SearchGateway.Server

/-- Why a server does not start. -/
inductive StartupFault where
  | missingEmbeddingKey
  | missingVariable (name : String)
  | wildcardOrigin

/-- The message of a fault. -/
def StartupFault.message : StartupFault → String
  | missingEmbeddingKey => "No embedding API key configured and OPENAI_API_KEY is not set"
  | missingVariable name => "Query engine credentials: " ++ Rpc.Credentials.missing name
  | wildcardOrigin =>
    "Wildcard origin (`*`) cannot be passed to `AllowOrigin::list`. " ++
      "Use `AllowOrigin::any()` instead"

/-- The key to the embedding provider that the environment holds, under its current or its older
name. -/
def embeddingKey? (env : Variables) : Option String :=
  (env.lookup "OPENAI_API_KEY").or (env.lookup "OPEN_API_KEY")

/-- The embedding provider under given settings. -/
def providerOf (s : EmbeddingSettings) (env : Variables) :
    Except StartupFault EmbeddingProvider :=
  match if s.apiKey.isEmpty then embeddingKey? env else some s.apiKey with
  | none => .error .missingEmbeddingKey
  | some key => .ok ⟨s.url, key, s.model, s.dimensions.toNat⟩

/-- The credentials of the database: those of the settings if both are there, else those of the
environment. -/
def credentialsOf (s : QueryEngineSettings) (env : Variables) :
    Except StartupFault Rpc.Credentials :=
  if s.url.isEmpty || s.serviceRoleKey.isEmpty then
    (Rpc.Credentials.ofVariables env).mapError .missingVariable
  else .ok ⟨s.url, s.serviceRoleKey⟩

/-- The query engine under given settings. -/
def engineOf (s : QueryEngineSettings) (env : Variables) : Except StartupFault Rpc.Engine := do
  let credentials ← credentialsOf s env
  return ⟨credentials, s.hybridFunction, s.candidatesFunction, s.candidateCount⟩

/-- The collaborators of a server. -/
structure Collaborators where
  provider : EmbeddingProvider
  engine : Rpc.Engine

/-- The collaborators under given settings. -/
def Collaborators.ofSettings (s : Settings) (env : Variables) :
    Except StartupFault Collaborators := do
  let provider ← providerOf s.embedding env
  let engine ← engineOf s.queryEngine env
  return ⟨provider, engine⟩

section
variable {m : Type → Type} [Monad m]

/-- A server that searches with the given collaborators. -/
def ofCollaborators (s : Settings) (e : Embedder (OptionT m)) (q : QueryEngine (OptionT m)) :
    Except StartupFault (Server m) :=
  match Origins.ofList? s.application.allowedOrigins with
  | none => .error .wildcardOrigin
  | some origins =>
    .ok
      { origins
        exposeErrorDetails := s.application.exposeErrorDetails
        answer := search s.policy e q }

/-- A client that never breaks off, among collaborators that may. -/
def liftClient (client : Wire.Client m) : Wire.Client (OptionT m) where
  deliver url r := OptionT.lift (client.deliver url r)

/-- The server of given settings. -/
def ofSettings (s : Settings) (env : Variables) (client : Wire.Client m) :
    Except StartupFault (Server m) := do
  let c ← Collaborators.ofSettings s env
  ofCollaborators s (c.provider.embedder (liftClient client))
    (c.engine.queryEngine (liftClient client))

end

end SearchGateway.Server
