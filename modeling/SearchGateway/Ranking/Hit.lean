import SearchGateway.Decimal.Binary64
import SearchGateway.Document

/-!
# Hits and matches

A `Hit` is a document's place in the ranking of one source; the two rankings together are
`Rankings`. A `Match` is a document in the fused ranking, with its place in each source.

Rows arrive from a query engine: as matches, already fused, or as hits that name their source. The
hits of a source are put in the order of their ranks, hits of one rank staying in the order of the
rows.
-/

namespace SearchGateway

/-- A source of hits. -/
inductive Source where
  | keyword
  | semantic
  deriving DecidableEq, Repr

/-- Reads the name of a source. -/
def Source.ofJson? (v : Json) : Option Source := do
  match ← v.caseName? with
  | "keyword" => some keyword
  | "semantic" => some semantic
  | _ => none

/-- A document's place in the ranking of one source. Rank 1 is the most relevant. -/
structure Hit where
  document : Document
  rank : UInt32
  score : Option Float

/-- The rankings of both sources. -/
structure Rankings where
  keyword : List Hit
  semantic : List Hit

/-- Ranks documents from 1 on, in the order given. -/
def Hit.rankedInOrder (documents : List (Document × Option Float)) : List Hit :=
  documents.zipIdx.map fun ((document, score), i) => ⟨document, .ofNat (i + 1), score⟩

/-- A document of the fused ranking, and what the sources say of it. -/
structure Match where
  document : Document
  keywordScore : Option Float
  keywordRank : Option UInt32
  similarityScore : Option Float
  semanticRank : Option UInt32
  score : Binary64

namespace Match

/-- The columns of a match, in order. -/
def columns : List String :=
  Document.columns ++
    ["keyword_score", "keyword_rank", "similarity_score", "semantic_rank", "rrf_score"]

/-- Reads a match. An absent fused score is zero. -/
def ofJson? (v : Json) : Option Match := do
  let column ← v.row? columns 8
  let document ← Document.ofColumns? column
  let keywordScore ← Json.optional? Json.float? (column "keyword_score")
  let keywordRank ← Json.optional? Json.word32? (column "keyword_rank")
  let similarityScore ← Json.optional? Json.float? (column "similarity_score")
  let semanticRank ← Json.optional? Json.word32? (column "semantic_rank")
  let score ← match column "rrf_score" with
    | none => some 0.0
    | some w => w.float?.map Binary64.ofFloat
  return { document, keywordScore, keywordRank, similarityScore, semanticRank, score }

/-- The scores of a match as a value. -/
def scoresJson (m : Match) : Json :=
  .object
    [("keyword_rank", Json.ofOption Json.ofWord32 m.keywordRank),
      ("keyword_score", Json.ofOption Json.ofFloat m.keywordScore),
      ("rrf_score", Json.ofFloat m.score),
      ("semantic_rank", Json.ofOption Json.ofWord32 m.semanticRank),
      ("similarity_score", Json.ofOption Json.ofFloat m.similarityScore)]

/-- The match as a row of an answer. -/
def toJson (m : Match) : Json :=
  .object
    [("content", Json.ofOption .string m.document.content),
      ("created_at", m.document.createdAtJson), ("id", m.document.id.toJson),
      ("metadata", m.document.metadata), ("search_scores", m.scoresJson)]

end Match

/-- A hit and the source that it comes from. -/
structure SourcedHit where
  source : Source
  hit : Hit

namespace SourcedHit

/-- The columns of a hit that names its source, in order. -/
def columns : List String := Document.columns ++ ["source", "rank", "score"]

/-- Reads a hit that names its source. -/
def ofJson? (v : Json) : Option SourcedHit := do
  let column ← v.row? columns 7
  let document ← Document.ofColumns? column
  let source ← (column "source").bind Source.ofJson?
  let rank ← (column "rank").bind Json.word32?
  let score ← Json.optional? Json.float? (column "score")
  return ⟨source, document, rank, score⟩

end SourcedHit

/-- The hits of one source in the order of their ranks. -/
def hitsOf (source : Source) (rows : List SourcedHit) : List Hit :=
  ((rows.filter (·.source == source)).map (·.hit)).mergeSort fun a b => a.rank ≤ b.rank

/-- Splits rows by source. -/
def Rankings.ofRows (rows : List SourcedHit) : Rankings :=
  ⟨hitsOf .keyword rows, hitsOf .semantic rows⟩

/-! ## Shapes of rows in a text -/

/-- A record whose columns may hold any value, but for its source, which is the name of a case. -/
def Shape.rowOf (columns : List String) (atLeast : Nat) : Shape :=
  .record "record" (columns.map fun key => (key, if key = "source" then .caseName else .any))
    atLeast

/-- A text that lists matches. -/
def Match.listShape : Shape := .list (.rowOf Match.columns 8)

/-- A text that lists hits with their sources. -/
def SourcedHit.listShape : Shape := .list (.rowOf SourcedHit.columns 7)

/-- Decodes each item of an array. -/
def Json.listOf? {α : Type} (decode : Json → Option α) (v : Json) : Option (List α) :=
  v.array?.bind (·.mapM decode)

end SearchGateway
