import SearchGateway.Json.Reader
import SearchGateway.Search.Request

/-!
# Bodies of search requests

A body is an object, or the array of its fields in order. Every field may be missing or `null`; in
an array each has its place. A body becomes a `SearchRequest` by its defaults: of the two fields
that hold a filter, `filter` counts where it is set, and else `metadata_filter`.
-/

namespace SearchGateway.Server

/-- The fields of a body, in order, and what each of them may hold. -/
def bodyFields : List (String × Shape) :=
  [("query", .optional .text), ("metadata_filter", .optional .any), ("filter", .optional .any),
    ("match_count", .optional .word32), ("full_text_weight", .optional .number),
    ("semantic_weight", .optional .number), ("rrf_k", .optional .word32),
    ("distance_method", .optional .text)]

/-- The shape of a body. -/
def bodyShape : Shape := .record "struct SearchBody" bodyFields 8

/-- A body that has been read. -/
structure RequestBody where
  query : Option String
  metadataFilter : Option Json
  filter : Option Json
  matchCount : Option UInt32
  fullTextWeight : Option Binary64
  semanticWeight : Option Binary64
  rrfK : Option UInt32
  distanceMethod : Option String

namespace RequestBody

/-- The value of a field, unless it is `null`. -/
def present? (column : String → Option Json) (key : String) : Option Json :=
  (column key).filter fun v => !v.isNull

/-- The body whose fields a look-up gives. -/
def ofColumns (column : String → Option Json) : RequestBody :=
  { query := (column "query").bind Json.string?
    metadataFilter := present? column "metadata_filter"
    filter := present? column "filter"
    matchCount := (column "match_count").bind Json.word32?
    fullTextWeight := ((column "full_text_weight").bind Json.float?).map .ofFloat
    semanticWeight := ((column "semantic_weight").bind Json.float?).map .ofFloat
    rrfK := (column "rrf_k").bind Json.word32?
    distanceMethod := (column "distance_method").bind Json.string? }

/-- Reads a body. -/
def read (bytes : Bytes) : Except Json.Fault RequestBody :=
  (Json.read bodyShape bytes).map fun v =>
    ofColumns ((v.row? (bodyFields.map (·.1)) 8).getD fun _ => none)

/-- The filter that counts. -/
def effectiveFilter (b : RequestBody) : Json :=
  (b.filter.filter Json.isSet).getD (b.metadataFilter.getD Filter.unrestricted)

/-- The request that a body makes. -/
def toRequest (b : RequestBody) : SearchRequest :=
  { query := b.query.getD ""
    filter := b.effectiveFilter
    matchCount := b.matchCount
    fullTextWeight := b.fullTextWeight.getD defaultWeight
    semanticWeight := b.semanticWeight.getD defaultWeight
    rrfK := b.rrfK.getD defaultRrfK
    distanceMethod := b.distanceMethod.getD DistanceMethod.cosine.name }

end RequestBody

end SearchGateway.Server
