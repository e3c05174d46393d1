import SearchGateway.Rpc.Call
import SearchGateway.Search.Service

/-!
# The query engine in a remote database

A `QueryEngine` that calls two functions of a database. The first one answers with matches, the
second one with hits of both sources, as many of each as the candidate count says, but never fewer
than the results asked for.
-/

namespace SearchGateway

/-- The parameters of an engine request, as fields. -/
def EngineRequest.fields (r : EngineRequest) : List (String × Json) :=
  [("distance_method", .string r.distanceMethod.name),
    ("full_text_weight", Json.ofFloat r.fullTextWeight),
    ("match_count", Json.ofWord32 r.matchCount),
    ("metadata_filter", r.metadataFilter),
    ("query_embedding", .array (r.queryEmbedding.map Json.ofSingle)),
    ("query_text", .string r.queryText), ("rrf_k", Json.ofWord32 r.rrfK),
    ("semantic_weight", Json.ofFloat r.semanticWeight)]

namespace Rpc

/-- A query engine in a database: the functions to call, and the least length of a ranking. -/
structure Engine where
  credentials : Credentials
  hybridFunction : String
  candidatesFunction : String
  candidateCount : UInt32

namespace Engine

/-- The function that fuses, where nothing else is said. -/
def defaultHybridFunction : String := "search_documents_hybrid"

/-- The function that ranks, where nothing else is said. -/
def defaultCandidatesFunction : String := "search_documents_candidates"

/-- The length of a ranking, where nothing else is said. -/
def defaultCandidateCount : UInt32 := 50

/-- The number of hits of each source that a request asks for. -/
def hitsPerSource (e : Engine) (r : EngineRequest) : UInt32 := max e.candidateCount r.matchCount

/-- The parameters of the function that fuses. -/
def hybridParameters (r : EngineRequest) : Json := .object r.fields

/-- The parameters of the function that ranks. -/
def candidatesParameters (e : Engine) (r : EngineRequest) : Json :=
  .object (("candidate_count", Json.ofWord32 (e.hitsPerSource r)) :: r.fields)

/-- A fault of a call as the failure of a search. -/
def failure (f : Fault) : Failure := .queryEngine f.message

/-- The matches that an answer lists. -/
def matches? (v : Json) : Option (List Match) := v.listOf? Match.ofJson?

/-- The rankings that an answer lists. -/
def rankings? (v : Json) : Option Rankings := (v.listOf? SourcedHit.ofJson?).map Rankings.ofRows

/-- The database as a query engine. -/
def queryEngine {m : Type → Type} [Monad m] (e : Engine) (client : Wire.Client m) :
    QueryEngine m where
  hybridSearch r := do
    let result ← call client e.credentials e.hybridFunction (hybridParameters r)
      Match.listShape matches?
    return result.mapError failure
  candidates r := do
    let result ← call client e.credentials e.candidatesFunction (e.candidatesParameters r)
      SourcedHit.listShape rankings?
    return result.mapError failure

end Engine

end Rpc

end SearchGateway
