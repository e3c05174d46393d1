import SearchGateway.Ranking.Hit
import SearchGateway.Ranking.Score

/-!
# Reciprocal rank fusion

Two rankings are fused in three steps. `merge` gathers the hits by document, in the order in which
documents first occur (keyword hits before semantic ones), and keeps the best place that each source
gives a document. Each document is then scored, and the documents are put in descending order of
score, ties staying in the order of `merge`, and cut to the number asked for.

The first step knows nothing of scores, and the last two (`rankBy`) nothing of how a score comes
about.
-/

namespace SearchGateway

/-- A place in a source's ranking. -/
structure Standing where
  rank : UInt32
  score : Option Float

/-- A document and the best place that each source gives it. -/
structure Merged where
  document : Document
  keyword : Option Standing
  semantic : Option Standing

namespace Merged

/-- The better of two places; the earlier one on a tie. -/
def better (old : Option Standing) (new : Standing) : Standing :=
  match old with
  | none => new
  | some s => if new.rank < s.rank then new else s

/-- Adds a hit of a source for the same document. -/
def add (m : Merged) (source : Source) (h : Hit) : Merged :=
  match source with
  | .keyword => { m with keyword := some (better m.keyword ⟨h.rank, h.score⟩) }
  | .semantic => { m with semantic := some (better m.semantic ⟨h.rank, h.score⟩) }

/-- A document that no source has ranked yet. -/
def unranked (d : Document) : Merged := ⟨d, none, none⟩

/-- Adds a hit to the entry of its document, or at the end as a new entry. -/
def insert (source : Source) (entries : List Merged) (h : Hit) : List Merged :=
  match entries with
  | [] => [(unranked h.document).add source h]
  | m :: rest =>
    if m.document.id = h.document.id then m.add source h :: rest
    else m :: insert source rest h

end Merged

/-- Gathers the hits of two rankings by document. -/
def merge (keyword semantic : List Hit) : List Merged :=
  semantic.foldl (Merged.insert .semantic) (keyword.foldl (Merged.insert .keyword) [])

/-- Puts items in descending order of their scores, ties in the order given, and keeps the first
`limit` of them. -/
def rankBy {α σ : Type} (score : α → σ) (atLeast : σ → σ → Bool) (limit : Nat)
    (items : List α) : List (α × σ) :=
  ((items.map fun a => (a, score a)).mergeSort fun a b => atLeast a.2 b.2).take limit

/-- The parameters of a fusion. -/
structure FusionParameters where
  fullTextWeight : Binary64
  semanticWeight : Binary64
  /-- Larger values flatten the gap between top and lower ranks. -/
  rrfK : UInt32
  matchCount : UInt32

/-- What a source that gives a document the place `s` adds to its score. -/
def Standing.termIn {α : Type} [Add α] [Div α] [OfNat α 0] (ofCount : UInt32 → α) (weight : α)
    (k : UInt32) : Option Standing → α
  | some s => reciprocalTermIn ofCount weight k s.rank
  | none => 0

/-- The fused score of a document in any kind of numbers. -/
def Merged.scoreIn {α : Type} [Add α] [Div α] [OfNat α 0] (ofCount : UInt32 → α)
    (fullTextWeight semanticWeight : α) (k : UInt32) (m : Merged) : α :=
  Standing.termIn ofCount fullTextWeight k m.keyword +
    Standing.termIn ofCount semanticWeight k m.semantic

/-- The fused score of a document. -/
def Merged.score [Binary64.NanRule] (p : FusionParameters) (m : Merged) : Binary64 :=
  m.scoreIn Binary64.ofCount p.fullTextWeight p.semanticWeight p.rrfK

/-- A merged document with its score as a match. -/
def Merged.toMatch (m : Merged) (score : Binary64) : Match :=
  { document := m.document
    keywordScore := m.keyword.bind (·.score)
    keywordRank := m.keyword.map (·.rank)
    similarityScore := m.semantic.bind (·.score)
    semanticRank := m.semantic.map (·.rank)
    score }

/-- Fuses two rankings. -/
def fuse [Binary64.NanRule] (p : FusionParameters) (keyword semantic : List Hit) : List Match :=
  (rankBy (Merged.score p) scoreAtLeast p.matchCount.toNat (merge keyword semantic)).map
    fun (m, score) => m.toMatch score

/-- Whether matches stand in the order that a fusion puts them in. -/
def inFusedOrder (matches' : List Match) : Bool := isDescending (matches'.map (·.score))

end SearchGateway
