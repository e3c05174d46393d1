import SearchGateway.Proofs.Ranking.Reference
import SearchGateway.Proofs.Ranking.RowOrder
import SearchGateway.Proofs.Search.Modes

/-!
# What the summary says of the sources

Where rankings are fused here, a result has a rank in a source exactly if the source hits its
document (`rankIn_of_mem_fuse`). The summary does not look at ranks, but at the scores that came
with the best hits, and a hit may come without one. So it denies matches of a source where none of
the results that the source hits has a score from its best hit there, and tells the truth everywhere
else (`search_summary_iff`).
-/

namespace SearchGateway

/-- The rank of a match in a source. -/
def Match.rankIn (m : Match) : Source → Option UInt32
  | .keyword => m.keywordRank
  | .semantic => m.semanticRank

/-- The score that a source gives a match. -/
def Match.scoreIn (m : Match) : Source → Option Float
  | .keyword => m.keywordScore
  | .semantic => m.similarityScore

/-- Whether a summary says that there are matches of a source. -/
def Summary.hasMatches (s : Summary) : Source → Bool
  | .keyword => s.hasKeywordMatches
  | .semantic => s.hasSemanticMatches

/-- A source hits the document of a match. -/
def Rankings.Hits (c : Rankings) (source : Source) (m : Match) : Prop :=
  ∃ h ∈ c.of source, h.document.id = m.document.id

/-- The best hit that a source has for the document of a match came with a score. -/
def Rankings.Scores (c : Rankings) (source : Source) (m : Match) : Prop :=
  ∃ h, bestHit? (c.of source) m.document.id = some h ∧ h.score.isSome = true

variable {c : Rankings} {source : Source} {m : Match} {p : FusionParameters}

/-- A document has a best hit in a source exactly if the source hits it. -/
theorem isSome_bestHit?_iff :
    (bestHit? (c.of source) m.document.id).isSome = true ↔ c.Hits source m := by
  rw [Option.isSome_iff_ne_none, ne_eq, bestHit?_eq_none, not_not, mem_distinctIds]
  rfl

/-- A source that scores a match hits it. -/
theorem Rankings.Scores.hits (h : c.Scores source m) : c.Hits source m := by
  obtain ⟨hit, hbest, -⟩ := h
  obtain ⟨hmem, hid⟩ := mem_of_bestHit? hbest
  exact ⟨hit, hmem, hid⟩

/-- Where all hits of a source came with a score, a source scores the matches that it hits. -/
theorem Rankings.Hits.scores (h : c.Hits source m)
    (hall : ∀ h ∈ c.of source, h.score.isSome = true) : c.Scores source m := by
  obtain ⟨hit, hbest⟩ := Option.isSome_iff_exists.1 (isSome_bestHit?_iff.2 h)
  exact ⟨hit, hbest, hall hit (mem_of_bestHit? hbest).1⟩

/-! ## Fused matches -/

/-- A fused match is that of its document. -/
theorem referenceMatch?_of_mem_fuse {keyword semantic : List Hit}
    (h : m ∈ fuse p keyword semantic) :
    referenceMatch? p keyword semantic m.document.id = some m := by
  rw [fuse_eq_ranked] at h
  have hmem := (ranked_perm _).mem_iff.1 (List.mem_of_mem_take h)
  obtain ⟨id, -, hmatch⟩ := List.mem_filterMap.1 hmem
  obtain ⟨document, hfirst, rfl⟩ := Option.map_eq_some_iff.1 hmatch
  obtain ⟨first, hfound, rfl⟩ := Option.map_eq_some_iff.1 hfirst
  have hid : first.document.id = id := by simpa using List.find?_some hfound
  rwa [hid]

/-- A fused match has the rank and the score of the best hit of each source. -/
theorem standing_of_mem_fuse (h : m ∈ fuse p c.keyword c.semantic) (source : Source) :
    m.rankIn source = (bestHit? (c.of source) m.document.id).map (·.rank) ∧
      m.scoreIn source = (bestHit? (c.of source) m.document.id).bind (·.score) := by
  obtain ⟨document, -, hmatch⟩ := Option.map_eq_some_iff.1 (referenceMatch?_of_mem_fuse h)
  generalize m.document.id = id at hmatch
  subst hmatch
  cases source <;> exact ⟨rfl, rfl⟩

/-- A fused match has a rank in a source exactly if the source hits it. -/
theorem rankIn_of_mem_fuse (h : m ∈ fuse p c.keyword c.semantic) :
    (m.rankIn source).isSome = true ↔ c.Hits source m := by
  rw [(standing_of_mem_fuse h source).1, Option.isSome_map, isSome_bestHit?_iff]

/-- A fused match has a score from a source exactly if its best hit there came with one. -/
theorem scoreIn_of_mem_fuse (h : m ∈ fuse p c.keyword c.semantic) :
    (m.scoreIn source).isSome = true ↔ c.Scores source m := by
  rw [(standing_of_mem_fuse h source).2, Option.isSome_bind, Option.any_eq_true]
  rfl

/-- The summary looks at scores. -/
theorem hasMatches_of (results : List Match) (parameters : Parameters) (fusion : FusionMode)
    (source : Source) : (Answer.of results parameters fusion).summary.hasMatches source = true ↔
      ∃ m ∈ results, (m.scoreIn source).isSome = true := by
  cases source <;> exact List.any_eq_true

/-- The summary of a search that fuses rankings here says of a source that there are matches exactly
if the source's best hit for some result came with a score. This is whether the source hits any
result at all, unless it hits some, and its best hit for each of these came without a score; so it
is if all hits of the source came with scores. That a source hits a result is what its rank there
shows. -/
theorem search_summary_iff {σ : Type} {policy : Policy} {e : Embedder (StateM σ)}
    {q : QueryEngine (StateM σ)} {r : SearchRequest} {s s' : σ} {a : Answer}
    (hmode : policy.fusion = .inCore)
    (hsearch : (search policy e q r).run s = (.ok a, s')) :
    ∃ embedding t c,
      (e.vector a.parameters.query).run s = (.ok embedding, t) ∧
      (q.candidates (a.parameters.engineRequest embedding)).run t = (.ok c, s') ∧
      ∀ source,
        (∀ m ∈ a.results, (m.rankIn source).isSome = true ↔ c.Hits source m) ∧
        (a.summary.hasMatches source = true ↔ ∃ m ∈ a.results, c.Scores source m) ∧
        ((a.summary.hasMatches source = true ↔ ∃ m ∈ a.results, c.Hits source m) ↔
          ¬ ((∃ m ∈ a.results, c.Hits source m) ∧ ∀ m ∈ a.results, ¬ c.Scores source m)) ∧
        ((∀ h ∈ c.of source, h.score.isSome = true) →
          (a.summary.hasMatches source = true ↔ ∃ m ∈ a.results, c.Hits source m)) := by
  obtain ⟨p, embedding, t, results, haccept, hvector, hrun, rfl⟩ := search_eq_ok_iff.1 hsearch
  rw [hmode] at hrun
  obtain ⟨c, hc, rfl⟩ := run_inCore_eq_ok_iff.1 hrun
  refine ⟨embedding, t, c, hvector, hc, fun source => ?_⟩
  have hscores : (Answer.of (fuse (p.engineRequest embedding).fusionParameters c.keyword
      c.semantic) p policy.fusion).summary.hasMatches source = true ↔
        ∃ m ∈ fuse (p.engineRequest embedding).fusionParameters c.keyword c.semantic,
          c.Scores source m := by
    rw [hasMatches_of]
    exact exists_congr fun m => and_congr_right scoreIn_of_mem_fuse
  refine ⟨fun m => rankIn_of_mem_fuse, hscores, ?_, fun hall => ?_⟩
  · rw [hscores]
    constructor
    · rintro h ⟨hhits, hnone⟩
      obtain ⟨m, hm, hscore⟩ := h.2 hhits
      exact hnone m hm hscore
    · intro h
      refine ⟨fun ⟨m, hm, hscore⟩ => ⟨m, hm, hscore.hits⟩, fun hhits => ?_⟩
      by_contra hnone
      exact h ⟨hhits, fun m hm hscore => hnone ⟨m, hm, hscore⟩⟩
  · rw [hscores]
    exact exists_congr fun m => and_congr_right fun _ =>
      ⟨Rankings.Scores.hits, fun h => h.scores hall⟩

/-- A search whose candidates are the given ones. -/
theorem exists_search_of_candidates (c : Rankings) :
    ∃ p, (search ⟨10, 100, false, .inCore⟩ flatEmbedder (fusingEngine c)
      ⟨"pricing", .object [], none, 1, 1, 50, "cosine"⟩).run 0 =
        (.ok (.of (fuse ⟨1, 1, 50, 10⟩ c.keyword c.semantic) p .inCore), 1) := by
  have hquery : (Text.trimmed "pricing").isEmpty = false := by decide
  obtain ⟨p, haccept⟩ : ∃ p, (⟨10, 100, false, .inCore⟩ : Policy).accept
      ⟨"pricing", .object [], none, 1, 1, 50, "cosine"⟩ = .ok p :=
    exists_accept hquery rfl rfl
  obtain ⟨-, -, method, -, hp⟩ := accept_eq_ok_iff.1 haccept
  have hparameters : (p.engineRequest [0, 1]).fusionParameters = ⟨1, 1, 50, 10⟩ := by
    rw [hp]
    rfl
  refine ⟨p, search_eq_ok_iff.2 ⟨p, [0, 1], 0, _, haccept, rfl, ?_, rfl⟩⟩
  rw [← hparameters]
  rfl

/-- Rankings in which the best hit of the first source comes without a score, and a worse one of the
same document with one. -/
def unscoredBest : Rankings :=
  ⟨[⟨⟨.int 1, none, .null, none⟩, 2, some 0.5⟩, ⟨⟨.int 1, none, .null, none⟩, 1, none⟩],
    [⟨⟨.int 2, none, .null, none⟩, 1, some 0.25⟩]⟩

/-- The summary of a search of `unscoredBest` says that there are matches of the second source, but
none of the first. -/
theorem search_summary_iff_unscoredBest :
    ∃ a, (search ⟨10, 100, false, .inCore⟩ flatEmbedder (fusingEngine unscoredBest)
        ⟨"pricing", .object [], none, 1, 1, 50, "cosine"⟩).run 0 = (.ok a, 1) ∧
      a.summary.hasMatches .semantic = true ∧ (∃ m ∈ a.results, unscoredBest.Hits .semantic m) ∧
      ¬ (a.summary.hasMatches .keyword = true ↔ ∃ m ∈ a.results, unscoredBest.Hits .keyword m) := by
  obtain ⟨p, hsearch⟩ := exists_search_of_candidates unscoredBest
  obtain ⟨embedding, t, c, -, hc, hsources⟩ := search_summary_iff rfl hsearch
  have hc : c = unscoredBest := by
    cases hc
    rfl
  subst hc
  have hids : (fuse ⟨1, 1, 50, 10⟩ unscoredBest.keyword unscoredBest.semantic).map
      (·.document.id) = [.int 1, .int 2] := by
    rw [fuse_eq_ranked, ranked_eq_insertionSort]
    decide +kernel
  obtain ⟨m₁, hm₁, hid₁⟩ := List.mem_map.1 (hids.symm ▸ List.mem_cons_self)
  obtain ⟨m₂, hm₂, hid₂⟩ := List.mem_map.1 (hids.symm ▸ List.mem_cons_of_mem _ List.mem_cons_self)
  obtain ⟨-, -, htruth, -⟩ := hsources .keyword
  obtain ⟨-, hscores, -, -⟩ := hsources .semantic
  have hscored : unscoredBest.Scores .semantic m₂ := by
    unfold Rankings.Scores
    rw [hid₂]
    exact ⟨_, rfl, rfl⟩
  refine ⟨_, hsearch, hscores.2 ⟨m₂, hm₂, hscored⟩, ⟨m₂, hm₂, hscored.hits⟩, ?_⟩
  rw [htruth, not_not]
  refine ⟨⟨m₁, hm₁, ?_⟩, fun m hm hscore => ?_⟩
  · unfold Rankings.Hits
    rw [hid₁]
    exact ⟨_, List.mem_cons_self, rfl⟩
  · obtain ⟨h, hbest, hscore⟩ := hscore
    have hid : m.document.id ∈ [.int 1, .int 2] := hids ▸ List.mem_map_of_mem hm
    rcases List.mem_cons.1 hid with hid | hid
    · rw [hid] at hbest
      cases hbest
      cases hscore
    · rw [List.mem_singleton.1 hid] at hbest
      cases hbest

/-- Rankings in which the only hit of the first source comes without a score. -/
def unscoredOnly : Rankings :=
  ⟨[⟨⟨.int 1, none, .null, none⟩, 1, none⟩], [⟨⟨.int 2, none, .null, none⟩, 1, some 0.5⟩]⟩

/-- The summary of a search of `unscoredOnly` says that there are no matches of the first source, in
which the first result has rank 1. -/
theorem not_summary_iff_unscoredOnly :
    ∃ a, (search ⟨10, 100, false, .inCore⟩ flatEmbedder (fusingEngine unscoredOnly)
        ⟨"pricing", .object [], none, 1, 1, 50, "cosine"⟩).run 0 = (.ok a, 1) ∧
      a.results.map (·.keywordRank) = [some 1, none] ∧
      ¬ (a.summary.hasKeywordMatches = true ↔
        ∃ m ∈ a.results, m.keywordRank.isSome = true) := by
  obtain ⟨p, hsearch⟩ := exists_search_of_candidates unscoredOnly
  refine ⟨_, hsearch, ?_⟩
  change (fuse _ _ _).map _ = _ ∧ ¬ ((fuse _ _ _).any _ = true ↔ ∃ m ∈ fuse _ _ _, _)
  rw [fuse_eq_ranked, ranked_eq_insertionSort]
  decide +kernel

end SearchGateway
