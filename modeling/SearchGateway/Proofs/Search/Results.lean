import SearchGateway.Proofs.Ranking.Reference
import SearchGateway.Proofs.Search.Run
import SearchGateway.Proofs.Search.Validation

/-!
# The results of a search

However an engine orders its rows, and however many it sends, a search that succeeds lists results
in numeric order of their scores, as many as were asked for and allowed, and leaves out none that
scores higher than one it lists (`search_results_ordered`). Scores have to be finite for this, and
so have weights, or a score could be no number; both are finite wherever they come from a text.

The two modes meet this in two ways. The rows of an engine are settled (`exists_settle_append`,
`length_settle`). Candidates are fused, and with finite weights every fused score is a number
(`allNumbers_referenceMatches`).
-/

namespace SearchGateway

/-- Settling gives the first rows of a rearrangement that is in numeric order. -/
theorem exists_settle_append {rows : List Match} (h : AllNumbers rows) (matchCount : UInt32) :
    ∃ omitted, (settle matchCount rows ++ omitted).Perm rows ∧
      NonIncreasing (settle matchCount rows ++ omitted) := by
  unfold settle
  split
  · next horder =>
    refine ⟨rows.drop matchCount.toNat, ?_, ?_⟩
    · rw [List.take_append_drop]
    · rw [List.take_append_drop]
      exact nonIncreasing_of_inFusedOrder h horder
  · refine ⟨(ranked rows).drop matchCount.toNat, ?_, ?_⟩
    · change ((ranked rows).take _ ++ (ranked rows).drop _).Perm rows
      rw [List.take_append_drop]
      exact ranked_perm rows
    · change NonIncreasing ((ranked rows).take _ ++ (ranked rows).drop _)
      rw [List.take_append_drop]
      exact nonIncreasing_ranked h

/-- Settling keeps as many rows as there are, up to the number asked for. -/
theorem length_settle (matchCount : UInt32) (rows : List Match) :
    (settle matchCount rows).length = min rows.length matchCount.toNat := by
  unfold settle
  rw [List.length_take, Nat.min_comm]
  split
  · rfl
  · rw [List.length_mergeSort]

/-- A fusion with finite weights is in numeric order. -/
theorem nonIncreasing_fuse {p : FusionParameters} (hkeyword : p.fullTextWeight.isFinite = true)
    (hsemantic : p.semanticWeight.isFinite = true) (keyword semantic : List Hit) :
    NonIncreasing (fuse p keyword semantic) := by
  rw [fuse_eq_ranked]
  exact (nonIncreasing_ranked (allNumbers_referenceMatches hkeyword hsemantic)).sublist
    (List.take_sublist _ _)

/-- The number of results is the one asked for, or the usual one, up to the greatest. -/
theorem toNat_matchCount (policy : Policy) (requested : Option UInt32) :
    (policy.matchCount requested).toNat =
      min (requested.getD policy.defaultMatchCount).toNat policy.maxMatchCount.toNat := by
  change (if requested.getD policy.defaultMatchCount ≤ policy.maxMatchCount then
    requested.getD policy.defaultMatchCount else policy.maxMatchCount).toNat = _
  split
  · next hle => rw [Nat.min_eq_left (UInt32.le_iff_toNat_le.1 hle)]
  · next hlt =>
    rw [UInt32.le_iff_toNat_le] at hlt
    rw [Nat.min_eq_right (Nat.le_of_not_le hlt)]

/-- A search that succeeds, with finite weights and finite scores in all rows of the engine, lists
results in numeric order, and its summary counts them. With `limit` for the number asked for, or the
usual one, up to the greatest: where the engine fuses, the results are the first `limit` of some
rearrangement of its rows, and no row left out scores higher than one that is listed; where rankings
are fused here, there are as many results as distinct documents among the candidates, up to
`limit`. -/
theorem search_results_ordered {σ : Type} (policy : Policy) (e : Embedder (StateM σ))
    (q : QueryEngine (StateM σ)) (r : SearchRequest) (s s' : σ) (a : Answer)
    (hkeyword : r.fullTextWeight.isFinite = true) (hsemantic : r.semanticWeight.isFinite = true)
    (hscores : ∀ request t rows t', (q.hybridSearch request).run t = (.ok rows, t') →
      ∀ m ∈ rows, m.score.isFinite = true)
    (hsearch : (search policy e q r).run s = (.ok a, s')) :
    a.results.Pairwise (fun x y => y.score ≤ x.score) ∧
      a.summary.totalResults = a.results.length ∧
      ∃ limit embedding t,
        limit = min (r.matchCount.getD policy.defaultMatchCount).toNat
          policy.maxMatchCount.toNat ∧
        (e.vector a.parameters.query).run s = (.ok embedding, t) ∧
        match policy.fusion with
        | .engine => ∃ rows omitted,
          (q.hybridSearch (a.parameters.engineRequest embedding)).run t = (.ok rows, s') ∧
          a.results.length = min rows.length limit ∧
          (a.results ++ omitted).Perm rows ∧
          ∀ kept ∈ a.results, ∀ other ∈ omitted, other.score ≤ kept.score
        | .inCore => ∃ c,
          (q.candidates (a.parameters.engineRequest embedding)).run t = (.ok c, s') ∧
          a.results.length = min (distinctIds (c.keyword ++ c.semantic)).length limit := by
  obtain ⟨p, embedding, t, results, haccept, hvector, hrun, rfl⟩ := search_eq_ok_iff.1 hsearch
  obtain ⟨-, -, method, -, hp⟩ := accept_eq_ok_iff.1 haccept
  have hlimit : p.matchCount.toNat =
      min (r.matchCount.getD policy.defaultMatchCount).toNat policy.maxMatchCount.toNat := by
    rw [hp]
    exact toNat_matchCount policy r.matchCount
  cases hmode : policy.fusion with
  | engine =>
    rw [hmode, run_engine] at hrun
    rcases hrows : (q.hybridSearch (p.engineRequest embedding)).run t with ⟨f | rows, u⟩
    · rw [hrows] at hrun
      cases hrun
    · rw [hrows] at hrun
      cases hrun
      have hnumbers : AllNumbers rows := fun m hm =>
        Binary64.isNaN_of_isFinite (hscores _ _ _ _ hrows m hm)
      obtain ⟨omitted, hperm, horder⟩ := exists_settle_append hnumbers p.matchCount
      obtain ⟨hresults, -, hacross⟩ := List.pairwise_append.1 horder
      refine ⟨hresults, rfl, p.matchCount.toNat, embedding, t, hlimit, hvector, ?_⟩
      exact ⟨rows, omitted, hrows, length_settle p.matchCount rows, hperm, hacross⟩
  | inCore =>
    rw [hmode, run_inCore] at hrun
    rcases hcandidates : (q.candidates (p.engineRequest embedding)).run t with ⟨f | c, u⟩
    · rw [hcandidates] at hrun
      cases hrun
    · rw [hcandidates] at hrun
      cases hrun
      have hfirst : p.fullTextWeight.isFinite = true := by
        rw [hp]
        exact hkeyword
      have hsecond : p.semanticWeight.isFinite = true := by
        rw [hp]
        exact hsemantic
      have horder := nonIncreasing_fuse (p := (p.engineRequest embedding).fusionParameters)
        hfirst hsecond c.keyword c.semantic
      have hlength := length_fuse (p.engineRequest embedding).fusionParameters c.keyword c.semantic
      rw [Nat.min_comm] at hlength
      refine ⟨horder, rfl, p.matchCount.toNat, embedding, t, hlimit, hvector, ?_⟩
      exact ⟨c, hcandidates, hlength⟩

/-- Rows in no order: the first one scores less than the second. -/
def unorderedRows : List Match :=
  [⟨⟨.int 1, none, .null, none⟩, none, none, none, none, 0.25⟩,
    ⟨⟨.int 2, none, .null, none⟩, none, none, none, none, 0.5⟩,
    ⟨⟨.int 3, none, .null, none⟩, none, none, none, none, 0.125⟩]

/-- An engine that answers with the same rows, whatever number it is asked for. -/
def lavishEngine (rows : List Match) : QueryEngine (StateM Unit) :=
  ⟨fun _ => return .ok rows, fun _ => return .ok ⟨[], []⟩⟩

/-- A request that leaves the number of results to the policy. -/
def modestRequest : SearchRequest := ⟨"two", .object [], none, 1, 1, 50, "cosine"⟩

/-- A search of `unorderedRows` that is to list two results lists two, in order. -/
theorem search_results_ordered_unorderedRows :
    ∃ a, (search ⟨2, 100, false, .engine⟩ ⟨2, fun _ => return .ok [0, 1]⟩
        (lavishEngine unorderedRows) modestRequest).run () = (.ok a, ()) ∧
      a.results.Pairwise (fun x y => y.score ≤ x.score) ∧ a.results.length = 2 := by
  have hquery : (Text.trimmed "two").isEmpty = false := by decide
  obtain ⟨p, haccept⟩ : ∃ p, (⟨2, 100, false, .engine⟩ : Policy).accept modestRequest = .ok p :=
    exists_accept hquery rfl rfl
  have hrows : ∀ request t rows t',
      ((lavishEngine unorderedRows).hybridSearch request).run t = (.ok rows, t') →
      rows = unorderedRows := by
    intro request t rows t' h
    cases h
    rfl
  have hscores : ∀ m ∈ unorderedRows, m.score.isFinite = true := by
    simp only [unorderedRows, List.forall_mem_cons, List.not_mem_nil, false_implies, implies_true,
      and_true]
    decide
  have hsearch : (search ⟨2, 100, false, .engine⟩ ⟨2, fun _ => return .ok [0, 1]⟩
      (lavishEngine unorderedRows) modestRequest).run () =
        (.ok (.of (settle p.matchCount unorderedRows) p .engine), ()) :=
    search_eq_ok_iff.2 ⟨p, [0, 1], (), _, haccept, rfl, rfl, rfl⟩
  obtain ⟨horder, -, limit, embedding, t, hlimit, -, rows, omitted, hasked, hlength, -⟩ :=
    search_results_ordered _ _ _ _ _ _ _ (by decide) (by decide)
      (fun _ _ _ _ h => hrows _ _ _ _ h ▸ hscores) hsearch
  refine ⟨_, hsearch, horder, ?_⟩
  rw [hlength, hlimit, hrows _ _ _ _ hasked]
  rfl

end SearchGateway
