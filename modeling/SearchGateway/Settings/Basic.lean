import SearchGateway.Search.Service
import SearchGateway.Text.Quoted

/-!
# Settings

What the operator configures, in four sections. Diagnostic output (`Settings.describe`) shows every
setting but the keys.
-/

namespace SearchGateway

/-- How the server is reached, and what it tells. -/
structure ApplicationSettings where
  port : UInt16
  host : String
  /-- Show the details of internal failures to clients. -/
  exposeErrorDetails : Bool
  /-- The origins that may read responses; none allows all. -/
  allowedOrigins : List String

/-- The embedding provider. -/
structure EmbeddingSettings where
  url : String
  /-- Empty: taken from the environment. -/
  apiKey : String
  model : String
  dimensions : UInt64
  timeoutSeconds : UInt64

/-- The database that answers queries. -/
structure QueryEngineSettings where
  /-- Empty: taken from the environment. -/
  url : String
  /-- Empty: taken from the environment. -/
  serviceRoleKey : String
  hybridFunction : String
  candidatesFunction : String
  fusion : FusionMode
  candidateCount : UInt32
  timeoutSeconds : UInt64

/-- Limits and checks of a search. -/
structure SearchSettings where
  defaultMatchCount : UInt32
  maxMatchCount : UInt32
  strictFilterValues : Bool

/-- All settings. -/
structure Settings where
  application : ApplicationSettings
  embedding : EmbeddingSettings
  queryEngine : QueryEngineSettings
  search : SearchSettings

/-- The policy of the search service under given settings. -/
def Settings.policy (s : Settings) : Policy :=
  { defaultMatchCount := s.search.defaultMatchCount
    maxMatchCount := s.search.maxMatchCount
    strictFilterValues := s.search.strictFilterValues
    fusion := s.queryEngine.fusion }

/-! ## Diagnostic output -/

/-- A named record with its fields; `more` says that some are left out. -/
def describeRecord (name : String) (fields : List (String × String)) (more : Bool) : String :=
  name ++ " \x7b " ++ ", ".intercalate (fields.map fun (key, text) => key ++ ": " ++ text) ++
    (if more then ", .. \x7d" else " \x7d")

/-- The application section. -/
def ApplicationSettings.describe (s : ApplicationSettings) : String :=
  describeRecord "ApplicationSettings"
    [("port", toString s.port.toNat), ("host", Text.quoted s.host),
      ("expose_error_details", toString s.exposeErrorDetails),
      ("allowed_origins", Text.quotedList s.allowedOrigins)] false

/-- The embedding section without its key. -/
def EmbeddingSettings.describe (s : EmbeddingSettings) : String :=
  describeRecord "EmbeddingSettings"
    [("api_url", Text.quoted s.url), ("model", Text.quoted s.model),
      ("dimensions", toString s.dimensions.toNat),
      ("request_timeout_secs", toString s.timeoutSeconds.toNat)] true

/-- The name of a mode in diagnostic output. -/
def FusionMode.describe : FusionMode → String
  | engine => "Engine"
  | inCore => "InCore"

/-- The query engine section without its key. -/
def QueryEngineSettings.describe (s : QueryEngineSettings) : String :=
  describeRecord "QueryEngineSettings"
    [("url", Text.quoted s.url), ("hybrid_function", Text.quoted s.hybridFunction),
      ("candidates_function", Text.quoted s.candidatesFunction), ("fusion", s.fusion.describe),
      ("candidate_count", toString s.candidateCount.toNat),
      ("request_timeout_secs", toString s.timeoutSeconds.toNat)] true

/-- The search section. -/
def SearchSettings.describe (s : SearchSettings) : String :=
  describeRecord "SearchSettings"
    [("default_match_count", toString s.defaultMatchCount.toNat),
      ("max_match_count", toString s.maxMatchCount.toNat),
      ("strict_filter_values", toString s.strictFilterValues)] false

/-- All settings but the keys. -/
def Settings.describe (s : Settings) : String :=
  describeRecord "Settings"
    [("application", s.application.describe), ("embedding", s.embedding.describe),
      ("query_engine", s.queryEngine.describe), ("search", s.search.describe)] false

end SearchGateway
