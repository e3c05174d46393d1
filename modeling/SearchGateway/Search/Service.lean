import SearchGateway.Filter.Values
import SearchGateway.Search.Answer
import SearchGateway.Text.Blank

/-!
# The search service

A search passes through three steps. `Policy.accept` validates the request and fixes the parameters;
it calls nothing. The query is then embedded, and the query engine is asked with the embedding. Each
collaborator is called at most once, in this order, and only after all that comes before succeeded.

Collaborators run in any monad, so the same service answers from canned data and over a network.
-/

namespace SearchGateway

/-- What the operator decides for every search. -/
structure Policy where
  /-- The number of results where the request does not say. -/
  defaultMatchCount : UInt32
  /-- The greatest number of results. -/
  maxMatchCount : UInt32
  /-- Refuse conditions whose value does not fit the operator. -/
  strictFilterValues : Bool
  fusion : FusionMode

/-- A source of embeddings. -/
structure Embedder (m : Type → Type) where
  /-- The number of components of every embedding. -/
  dimensions : Nat
  embed : String → m (Except Failure (List Float32))

/-- A remote engine that filters and ranks documents. -/
structure QueryEngine (m : Type → Type) where
  /-- Matches of both sources, fused by the engine. -/
  hybridSearch : EngineRequest → m (Except Failure (List Match))
  /-- The rankings of both sources. -/
  candidates : EngineRequest → m (Except Failure Rankings)

/-! ## Validation -/

/-- Refuses a filter that cannot be read, or, where values are checked, one that has a misfit. -/
def Policy.checkFilter (policy : Policy) (v : Json) : Except Filter.Defect Unit := do
  match ← Filter.Expression.ofJson v with
  | some e => if policy.strictFilterValues then e.checkValues else .ok ()
  | none => .ok ()

/-- The number of results of a request. -/
def Policy.matchCount (policy : Policy) (requested : Option UInt32) : UInt32 :=
  min (requested.getD policy.defaultMatchCount) policy.maxMatchCount

/-- Validates a request, and fixes the parameters of the search. -/
def Policy.accept (policy : Policy) (r : SearchRequest) : Except Failure Parameters :=
  let query := Text.trimmed r.query
  if query.isEmpty then .error .missingQuery
  else
    match DistanceMethod.ofName? r.distanceMethod with
    | none => .error (.unknownDistanceMethod r.distanceMethod)
    | some distanceMethod =>
      match policy.checkFilter r.filter with
      | .error d => .error (.invalidFilter d)
      | .ok () =>
        .ok
          { query
            filters := .of r.filter
            matchCount := policy.matchCount r.matchCount
            fullTextWeight := r.fullTextWeight
            semanticWeight := r.semanticWeight
            rrfK := r.rrfK
            distanceMethod }

/-! ## Asking the collaborators -/

/-- The request to the query engine for given parameters. -/
def Parameters.engineRequest (p : Parameters) (embedding : List Float32) : EngineRequest :=
  { queryText := p.query
    queryEmbedding := embedding
    matchCount := p.matchCount
    metadataFilter := p.filters.normal
    fullTextWeight := p.fullTextWeight
    semanticWeight := p.semanticWeight
    rrfK := p.rrfK
    distanceMethod := p.distanceMethod }

/-- The parameters of a fusion of what a request to the query engine brings. -/
def EngineRequest.fusionParameters (r : EngineRequest) : FusionParameters :=
  ⟨r.fullTextWeight, r.semanticWeight, r.rrfK, r.matchCount⟩

/-- Refuses an embedding with a wrong number of components. -/
def checkDimensions (expected : Nat) (embedding : List Float32) :
    Except Failure (List Float32) :=
  if embedding.length = expected then .ok embedding
  else .error (.embedding s!"expected {expected} dimensions, got {embedding.length}")

/-- Matches that an engine fused: put in order where they are not, and cut to the number asked
for. -/
def settle (matchCount : UInt32) (matches' : List Match) : List Match :=
  let ordered :=
    if inFusedOrder matches' then matches'
    else matches'.mergeSort fun a b => scoreAtLeast a.score b.score
  ordered.take matchCount.toNat

section
variable {m : Type → Type} [Monad m]

/-- The embedding of a query. -/
def Embedder.vector (e : Embedder m) (query : String) : m (Except Failure (List Float32)) := do
  return (← e.embed query).bind (checkDimensions e.dimensions)

/-- The matches of a request, fused by whom the mode says. -/
def QueryEngine.run (q : QueryEngine m) (mode : FusionMode) (r : EngineRequest) :
    m (Except Failure (List Match)) :=
  match mode with
  | .engine => do return (← q.hybridSearch r).map (settle r.matchCount)
  | .inCore => do
    return (← q.candidates r).map fun c => fuse r.fusionParameters c.keyword c.semantic

/-- Answers a request. -/
def search (policy : Policy) (e : Embedder m) (q : QueryEngine m) (r : SearchRequest) :
    m (Except Failure Answer) :=
  match policy.accept r with
  | .error f => return .error f
  | .ok p => do
    match ← e.vector p.query with
    | .error f => return .error (f.during .embedding p.filters)
    | .ok embedding =>
      match ← q.run policy.fusion (p.engineRequest embedding) with
      | .error f => return .error (f.during .queryEngine p.filters)
      | .ok results => return .ok (.of results p policy.fusion)

end

end SearchGateway
