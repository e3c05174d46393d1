import SearchGateway.Ranking.Fusion
import SearchGateway.Search.Failure

/-!
# Answers

The answer to a search: the matches, an echo of the parameters that were in effect, and a summary.
-/

namespace SearchGateway

/-- The parameters that were in effect for a search. -/
structure Parameters where
  query : String
  filters : FilterForms
  matchCount : UInt32
  fullTextWeight : Binary64
  semanticWeight : Binary64
  rrfK : UInt32
  distanceMethod : DistanceMethod

/-- The parameters as a value. -/
def Parameters.toJson (p : Parameters) : Json :=
  .object
    [("distance_method", .string p.distanceMethod.name),
      ("full_text_weight", Json.ofFloat p.fullTextWeight),
      ("match_count", Json.ofWord32 p.matchCount),
      ("original_filter", p.filters.raw), ("query", .string p.query),
      ("rrf_k", Json.ofWord32 p.rrfK), ("semantic_weight", Json.ofFloat p.semanticWeight),
      ("transformed_filter", p.filters.normal)]

/-- What an answer holds, at a glance. -/
structure Summary where
  totalResults : Nat
  /-- Some match has a keyword score. -/
  hasKeywordMatches : Bool
  /-- Some match has a similarity score. -/
  hasSemanticMatches : Bool
  distanceMethodUsed : DistanceMethod
  filterApplied : Bool
  fusion : FusionMode

/-- The summary as a value. -/
def Summary.toJson (s : Summary) : Json :=
  .object
    [("distance_method_used", .string s.distanceMethodUsed.name),
      ("filter_applied", .bool s.filterApplied), ("fusion", .string s.fusion.name),
      ("has_keyword_matches", .bool s.hasKeywordMatches),
      ("has_semantic_matches", .bool s.hasSemanticMatches),
      ("total_results", .int s.totalResults)]

/-- The answer to a search. -/
structure Answer where
  results : List Match
  parameters : Parameters
  summary : Summary

/-- The answer that lists the given matches. -/
def Answer.of (results : List Match) (parameters : Parameters) (fusion : FusionMode) : Answer :=
  { results
    parameters
    summary :=
      { totalResults := results.length
        hasKeywordMatches := results.any (·.keywordScore.isSome)
        hasSemanticMatches := results.any (·.similarityScore.isSome)
        distanceMethodUsed := parameters.distanceMethod
        filterApplied := Filter.isApplied parameters.filters.normal
        fusion } }

/-- The answer as a value. -/
def Answer.toJson (a : Answer) : Json :=
  .object
    [("results", .array (a.results.map Match.toJson)), ("search_params", a.parameters.toJson),
      ("summary", a.summary.toJson)]

end SearchGateway
