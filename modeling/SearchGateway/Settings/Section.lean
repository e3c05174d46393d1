import SearchGateway.Settings.Basic
import SearchGateway.Settings.Value

/-!
# Sections of settings

A section is a table, or the list of its settings in order. Settings that are there are decoded
before any that is missing is reported; what else a table holds does not matter.
-/

namespace SearchGateway.Settings

/-- A section: its name, its settings in order, and what it holds. -/
structure Section where
  name : String
  keys : List String
  content : Json

/-- The value of a setting. -/
def Section.value? (s : Section) (key : String) : Option Json :=
  match s.content with
  | .object fields => fields.lookup key
  | .array items => (s.keys.zip items).lookup key
  | _ => none

/-- The fault of a setting that is not there. -/
def Section.missing (s : Section) (key : String) : SettingsFault :=
  match s.content with
  | .array _ =>
    .tooFewItems (s.keys.idxOf key) s!"struct {s.name} with {s.keys.length} elements"
  | _ => .missingField key

/-- A section of the given content, if it can be one. -/
def Section.of (name : String) (keys : List String) (content : Json) :
    Except SettingsFault Section :=
  match content with
  | .object _ | .array _ => .ok ⟨name, keys, content⟩
  | _ => .error (.wrongType content ("struct " ++ name))

/-- Decodes a setting if it is there. -/
def Section.read {α : Type} (s : Section) (key : String) (decode : Json → Except SettingsFault α) :
    Except SettingsFault (Option α) :=
  match s.value? key with
  | some v => (decode v).map some
  | none => .ok none

/-- A setting that has to be there. -/
def Section.require {α : Type} (s : Section) (key : String) :
    Option α → Except SettingsFault α
  | some a => .ok a
  | none => .error (s.missing key)

/-- Decodes the application section. -/
def applicationOf (content : Json) : Except SettingsFault ApplicationSettings := do
  let s ← Section.of "ApplicationSettings"
    ["port", "host", "expose_error_details", "allowed_origins"] content
  let port ← s.read "port" (countBelow UInt16.size)
  let host ← s.read "host" textOf
  let exposeErrorDetails ← s.read "expose_error_details" truthOf
  let allowedOrigins ← s.read "allowed_origins" textsOf
  return {
    port := .ofNat (← s.require "port" port)
    host := ← s.require "host" host
    exposeErrorDetails := ← s.require "expose_error_details" exposeErrorDetails
    allowedOrigins := allowedOrigins.getD [] }

/-- Decodes the embedding section. -/
def embeddingOf (content : Json) : Except SettingsFault EmbeddingSettings := do
  let s ← Section.of "EmbeddingSettings"
    ["api_url", "api_key", "model", "dimensions", "request_timeout_secs"] content
  let url ← s.read "api_url" textOf
  let apiKey ← s.read "api_key" textOf
  let model ← s.read "model" textOf
  let dimensions ← s.read "dimensions" (countBelow UInt64.size)
  let timeoutSeconds ← s.read "request_timeout_secs" (countBelow UInt64.size)
  return {
    url := ← s.require "api_url" url
    apiKey := apiKey.getD ""
    model := ← s.require "model" model
    dimensions := .ofNat (← s.require "dimensions" dimensions)
    timeoutSeconds := .ofNat (← s.require "request_timeout_secs" timeoutSeconds) }

/-- Decodes the query engine section. -/
def queryEngineOf (content : Json) : Except SettingsFault QueryEngineSettings := do
  let s ← Section.of "QueryEngineSettings"
    ["url", "service_role_key", "hybrid_function", "candidates_function", "fusion",
      "candidate_count", "request_timeout_secs"] content
  let url ← s.read "url" textOf
  let serviceRoleKey ← s.read "service_role_key" textOf
  let hybridFunction ← s.read "hybrid_function" textOf
  let candidatesFunction ← s.read "candidates_function" textOf
  let fusion ← s.read "fusion" fusionOf
  let candidateCount ← s.read "candidate_count" (countBelow UInt32.size)
  let timeoutSeconds ← s.read "request_timeout_secs" (countBelow UInt64.size)
  return {
    url := url.getD ""
    serviceRoleKey := serviceRoleKey.getD ""
    hybridFunction := ← s.require "hybrid_function" hybridFunction
    candidatesFunction := ← s.require "candidates_function" candidatesFunction
    fusion := ← s.require "fusion" fusion
    candidateCount := .ofNat (← s.require "candidate_count" candidateCount)
    timeoutSeconds := .ofNat (← s.require "request_timeout_secs" timeoutSeconds) }

/-- Decodes the search section. -/
def searchOf (content : Json) : Except SettingsFault SearchSettings := do
  let s ← Section.of "SearchSettings"
    ["default_match_count", "max_match_count", "strict_filter_values"] content
  let defaultMatchCount ← s.read "default_match_count" (countBelow UInt32.size)
  let maxMatchCount ← s.read "max_match_count" (countBelow UInt32.size)
  let strictFilterValues ← s.read "strict_filter_values" switchOf
  return {
    defaultMatchCount := .ofNat (← s.require "default_match_count" defaultMatchCount)
    maxMatchCount := .ofNat (← s.require "max_match_count" maxMatchCount)
    strictFilterValues := ← s.require "strict_filter_values" strictFilterValues }

/-- Decodes a tree of settings. -/
def ofTree (tree : Json) : Except SettingsFault Settings := do
  let s ← Section.of "Settings" ["application", "embedding", "query_engine", "search"] tree
  let application ← s.read "application" applicationOf
  let embedding ← s.read "embedding" embeddingOf
  let queryEngine ← s.read "query_engine" queryEngineOf
  let search ← s.read "search" searchOf
  return {
    application := ← s.require "application" application
    embedding := ← s.require "embedding" embedding
    queryEngine := ← s.require "query_engine" queryEngine
    search := ← s.require "search" search }

end SearchGateway.Settings
