import SearchGateway.Decimal.Binary64
import SearchGateway.Filter.Normal
import SearchGateway.Json.Row

/-!
# Requests

What a client asks for (`SearchRequest`) and what a query engine is asked for (`EngineRequest`).
-/

namespace SearchGateway

/-- The vector-space metric of a semantic search. -/
inductive DistanceMethod where
  | cosine
  | euclidean
  | innerProduct
  deriving DecidableEq, Repr

namespace DistanceMethod

/-- Every method. -/
def all : List DistanceMethod := [cosine, euclidean, innerProduct]

/-- The name of a method. -/
def name : DistanceMethod → String
  | cosine => "cosine"
  | euclidean => "euclidean"
  | innerProduct => "inner_product"

/-- The method of a name; case matters. -/
def ofName? (s : String) : Option DistanceMethod := all.find? (·.name == s)

theorem ofName?_name (m : DistanceMethod) : ofName? m.name = some m := by cases m <;> decide

/-- Reads a method. -/
def ofJson? (v : Json) : Option DistanceMethod := v.caseName?.bind ofName?

/-- The names that are accepted, for messages. -/
def supported : String := ", ".intercalate (all.map name)

end DistanceMethod

/-- Who fuses the two rankings. -/
inductive FusionMode where
  /-- The query engine answers with matches. -/
  | engine
  /-- The query engine answers with rankings, which are fused here. -/
  | inCore
  deriving DecidableEq, Repr

namespace FusionMode

/-- Every mode. -/
def all : List FusionMode := [engine, inCore]

/-- The name of a mode. -/
def name : FusionMode → String
  | engine => "engine"
  | inCore => "in_core"

/-- The mode of a name; case matters. -/
def ofName? (s : String) : Option FusionMode := all.find? (·.name == s)

theorem ofName?_name (m : FusionMode) : ofName? m.name = some m := by cases m <;> decide

/-- Reads a mode. -/
def ofJson? (v : Json) : Option FusionMode := v.caseName?.bind ofName?

end FusionMode

/-- The number of results where nothing else is said. -/
def defaultMatchCount : UInt32 := 10

/-- The smoothing constant where nothing else is said. -/
def defaultRrfK : UInt32 := 50

/-- The weight of a source where nothing else is said. -/
def defaultWeight : Binary64 := 1.0

/-- What a client asks for. -/
structure SearchRequest where
  query : String
  /-- The filter as the client wrote it. -/
  filter : Json
  matchCount : Option UInt32
  fullTextWeight : Binary64
  semanticWeight : Binary64
  rrfK : UInt32
  distanceMethod : String

/-- What a query engine is asked for. -/
structure EngineRequest where
  queryText : String
  queryEmbedding : List Float32
  matchCount : UInt32
  /-- The filter in its normal form. -/
  metadataFilter : Json
  fullTextWeight : Binary64
  semanticWeight : Binary64
  rrfK : UInt32
  distanceMethod : DistanceMethod

end SearchGateway
