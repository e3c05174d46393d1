import SearchGateway.Proofs.Ranking.Merge
import SearchGateway.Proofs.Ranking.Sorting

/-!
# Fusion by document

What a fusion computes, said without its loops: `referenceRanking` takes each document that is hit,
looks up its first occurrence and its best hit in each source, scores it, inserts it in its place in
the ranking and cuts the ranking. `fuse_eq_reference` says that `fuse` gives this for all rankings,
whatever ranks they hold, in whatever order, and however often they repeat a document; and for all
weights, also those that are not numbers, whatever the bits of the scores are then.
-/

namespace SearchGateway

open Binary64 (NanRule StandsBelow ofCount)

variable [NanRule]

/-- What a source adds to the score of a document whose best hit it has: the weighted reciprocal of
its rank, smoothed, where rank 0 counts as rank 1; nothing where there is no hit. -/
def hitTerm (weight : Binary64) (k : UInt32) : Option Hit → Binary64
  | some h => weight / (ofCount k + ofCount (max h.rank 1))
  | none => 0.0

/-- The match of a document. -/
def referenceMatch? (p : FusionParameters) (keyword semantic : List Hit) (id : DocumentId) :
    Option Match :=
  (firstDocument? (keyword ++ semantic) id).map fun document =>
    { document
      keywordScore := (bestHit? keyword id).bind (·.score)
      keywordRank := (bestHit? keyword id).map (·.rank)
      similarityScore := (bestHit? semantic id).bind (·.score)
      semanticRank := (bestHit? semantic id).map (·.rank)
      score := hitTerm p.fullTextWeight p.rrfK (bestHit? keyword id) +
        hitTerm p.semanticWeight p.rrfK (bestHit? semantic id) }

/-- The matches of all documents, in order of first occurrence. -/
def referenceMatches (p : FusionParameters) (keyword semantic : List Hit) : List Match :=
  (distinctIds (keyword ++ semantic)).filterMap (referenceMatch? p keyword semantic)

/-- The ranking of all documents, cut to the number asked for. -/
def referenceRanking (p : FusionParameters) (keyword semantic : List Hit) : List Match :=
  ((referenceMatches p keyword semantic).insertionSort MayPrecede).take p.matchCount.toNat

variable {p : FusionParameters} {keyword semantic : List Hit}

/-- The term of a place is that of the hit in it. -/
theorem termIn_standing (weight : Binary64) (k : UInt32) (best : Option Hit) :
    Standing.termIn ofCount weight k (best.map Hit.standing) = hitTerm weight k best := by
  cases best with
  | none => rfl
  | some h => rfl

/-- The entry of a document, scored, is its match. -/
theorem toMatch_entry (p : FusionParameters) (keyword semantic : List Hit) (id : DocumentId) :
    (entryOf? (keyword ++ semantic) ⟨keyword, semantic⟩ id).map (fun m => m.toMatch (m.score p)) =
      referenceMatch? p keyword semantic id := by
  unfold entryOf? referenceMatch?
  rw [Option.map_map]
  congr 1
  funext document
  simp only [Function.comp_apply, Merged.toMatch, Merged.score, Merged.scoreIn, termIn_standing]
  cases bestHit? keyword id <;> cases bestHit? semantic id <;> rfl

/-- What merging gathers, scored, are the matches of all documents. -/
theorem scored_merge (p : FusionParameters) (keyword semantic : List Hit) :
    scored p (merge keyword semantic) = referenceMatches p keyword semantic := by
  rw [scored, merge_eq, List.map_filterMap]
  exact List.filterMap_congr fun id _ => toMatch_entry p keyword semantic id

/-- The matches of all documents have their identifiers. -/
theorem ids_referenceMatches (p : FusionParameters) (keyword semantic : List Hit) :
    (referenceMatches p keyword semantic).map (·.document.id) =
      distinctIds (keyword ++ semantic) := by
  rw [← scored_merge, scored, List.map_map]
  exact (gathered_merge keyword semantic).ids

/-- A fusion puts the matches of all documents in order and cuts them. -/
theorem fuse_eq_ranked (p : FusionParameters) (keyword semantic : List Hit) :
    fuse p keyword semantic =
      (ranked (referenceMatches p keyword semantic)).take p.matchCount.toNat := by
  rw [fuse_eq, scored_merge]

/-- A fusion has a match for each document, up to the number asked for. -/
theorem length_fuse (p : FusionParameters) (keyword semantic : List Hit) :
    (fuse p keyword semantic).length =
      min p.matchCount.toNat (distinctIds (keyword ++ semantic)).length := by
  rw [fuse_eq_ranked, List.length_take, (ranked_perm _).length_eq, ← ids_referenceMatches p,
    List.length_map]

/-- A fusion is the reference ranking. In it no identifier occurs twice; it has as many matches as
there are documents, up to the number asked for, for every document that is hit has a match before
the cut; and no match that is cut off stands above one that is kept. -/
theorem fuse_eq_reference (p : FusionParameters) (keyword semantic : List Hit) :
    fuse p keyword semantic = referenceRanking p keyword semantic ∧
      (referenceMatches p keyword semantic).map (·.document.id) =
        distinctIds (keyword ++ semantic) ∧
      ((fuse p keyword semantic).map (·.document.id)).Nodup ∧
      (fuse p keyword semantic).length =
        min p.matchCount.toNat (distinctIds (keyword ++ semantic)).length ∧
      ∀ kept ∈ fuse p keyword semantic, ∀ other ∈ referenceMatches p keyword semantic,
        other.document.id ∉ (fuse p keyword semantic).map (·.document.id) →
          ¬StandsBelow kept.score other.score := by
  have hids := ids_referenceMatches p keyword semantic
  have hperm := ranked_perm (referenceMatches p keyword semantic)
  refine ⟨?_, hids, ?_, length_fuse p keyword semantic, ?_⟩
  · rw [fuse_eq_ranked, ranked_eq_insertionSort, referenceRanking]
  · have hnodup : ((ranked (referenceMatches p keyword semantic)).map (·.document.id)).Nodup := by
      rw [(hperm.map _).nodup_iff, hids]
      exact nodup_distinctIds _
    rw [fuse_eq_ranked, List.map_take]
    exact hnodup.sublist (List.take_sublist _ _)
  · intro kept hkept other hother hout
    rw [fuse_eq_ranked] at hkept hout
    refine mayPrecede_of_not_mem_take (pairwise_ranked _) hkept (hperm.mem_iff.2 hother) ?_
    exact fun hmem => hout (List.mem_map_of_mem hmem)

/-! ## Scores are numbers -/

omit [NanRule] in
/-- A rank that counts is not zero. -/
theorem max_one_ne_zero (rank : UInt32) : max rank 1 ≠ 0 := by
  change (if rank ≤ 1 then 1 else rank) ≠ 0
  split
  · decide
  · next hlarge =>
    rintro rfl
    exact hlarge (by decide)

/-- What a source adds to a score is finite, if its weight is. -/
theorem isFinite_hitTerm {weight : Binary64} (hw : weight.isFinite = true) (k : UInt32)
    (best : Option Hit) : (hitTerm weight k best).isFinite = true := by
  cases best with
  | none =>
    have hzero : (0.0 : Binary64).isFinite = true := by decide
    exact hzero
  | some h =>
    exact Binary64.isFinite_div hw (Binary64.atLeastOne_divisor k (max_one_ne_zero h.rank))

/-- With finite weights, the scores of a fusion are numbers. -/
theorem allNumbers_referenceMatches (hkeyword : p.fullTextWeight.isFinite = true)
    (hsemantic : p.semanticWeight.isFinite = true) :
    AllNumbers (referenceMatches p keyword semantic) := by
  intro m hm
  obtain ⟨id, -, hmatch⟩ := List.mem_filterMap.1 hm
  obtain ⟨document, -, rfl⟩ := Option.map_eq_some_iff.1 hmatch
  exact Binary64.isNaN_add (isFinite_hitTerm hkeyword _ _) (isFinite_hitTerm hsemantic _ _)

end SearchGateway
