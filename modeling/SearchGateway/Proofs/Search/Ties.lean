import SearchGateway.Proofs.Ranking.Ties
import SearchGateway.Proofs.Search.Results

/-!
# Ties in the results of a search

Results with one score are to stand in the order in which they are first seen: in that of the
engine's rows or, where rankings are fused here, in that of the hits, keyword hits before semantic
ones (`QueryEngine.Sees`). `search_keeps_ties_iff` says that they do for all scores but zeros of
both signs, and when they do for these: where the rows need no sorting, and else only where no
result with the negative zero was seen before a match with zero. A row that has nothing to do with a
tie thus decides how the tie is broken (`not_keepsTies_zeros`).
-/

namespace SearchGateway

open Binary64 (Unsigned)

variable {σ : Type}

/-- A query engine, asked in a state, brings matches that are seen in the order given: its rows, or
the matches of the documents among its candidates, in order of first occurrence. -/
inductive QueryEngine.Sees (q : QueryEngine (StateM σ)) (r : EngineRequest) (s t : σ) :
    FusionMode → List Match → Prop where
  | engine {rows : List Match} (h : (q.hybridSearch r).run s = (.ok rows, t)) :
    Sees q r s t .engine rows
  | inCore {c : Rankings} {seen : List Match} (h : (q.candidates r).run s = (.ok c, t))
      (hseen : seen = referenceMatches r.fusionParameters c.keyword c.semantic)
      (hids : seen.map (·.document.id) = distinctIds (c.keyword ++ c.semantic)) :
    Sees q r s t .inCore seen

/-- Where rankings are fused here, no match is seen with the negative zero if one of the weights has
no sign. -/
theorem QueryEngine.Sees.ne_negZero {q : QueryEngine (StateM σ)} {r : EngineRequest} {s t : σ}
    {seen : List Match} (h : q.Sees r s t .inCore seen)
    (hw : Unsigned r.fullTextWeight ∨ Unsigned r.semanticWeight) :
    ∀ m ∈ seen, m.score ≠ -0.0 := by
  cases h with
  | inCore h hseen hids =>
    rw [hseen]
    exact ne_negZero_of_mem_referenceMatches hw

/-- The order in which matches are seen is kept where nothing sorts them. -/
def InOrder (mode : FusionMode) (seen : List Match) : Prop :=
  mode = .engine ∧ inFusedOrder seen = true

/-- What a query engine brings is in the order in which it is seen, or sorted; then it is cut. -/
theorem QueryEngine.exists_sees {q : QueryEngine (StateM σ)} {mode : FusionMode}
    {r : EngineRequest} {s t : σ} {results : List Match}
    (h : (q.run mode r).run s = (.ok results, t)) :
    ∃ seen, q.Sees r s t mode seen ∧
      (InOrder mode seen ∧ results = seen.take r.matchCount.toNat ∨
        ¬ InOrder mode seen ∧ results = (ranked seen).take r.matchCount.toNat) := by
  cases mode with
  | engine =>
    obtain ⟨rows, hrows, rfl⟩ := run_engine_eq_ok_iff.1 h
    refine ⟨rows, .engine hrows, ?_⟩
    unfold settle InOrder
    cases horder : inFusedOrder rows with
    | true => exact .inl ⟨⟨rfl, rfl⟩, rfl⟩
    | false => exact .inr ⟨by simp, rfl⟩
  | inCore =>
    obtain ⟨c, hc, rfl⟩ := run_inCore_eq_ok_iff.1 h
    refine ⟨_, .inCore hc rfl (ids_referenceMatches _ _ _), .inr ⟨?_, fuse_eq_ranked _ _ _⟩⟩
    rintro ⟨⟨⟩, -⟩

/-- Of the matches that are seen, sorted where they are out of order and cut, those whose score is
not zero keep the order of ties. All do exactly where nothing is sorted, or else where the matches
that are returned with the negative zero were seen behind all with zero. -/
theorem keepsTies_iff {mode : FusionMode} {seen results : List Match} {n : Nat}
    (h : InOrder mode seen ∧ results = seen.take n ∨
      ¬ InOrder mode seen ∧ results = (ranked seen).take n) :
    (∀ x, (x == 0) = false → results.filter (·.score == x) <+: seen.filter (·.score == x)) ∧
      (KeepsTies seen results ↔ InOrder mode seen ∨ NegZerosLast seen results) := by
  rcases h with ⟨horder, rfl⟩ | ⟨horder, rfl⟩
  · exact ⟨fun x _ => filter_take_isPrefix _ _ n,
      iff_of_true (keepsTies_take seen n) (.inl horder)⟩
  · refine ⟨fun x hx => filter_take_ranked hx seen n, ?_⟩
    rw [keepsTies_take_ranked_iff, or_iff_right horder]

/-- The results of a search that succeeds keep the order in which ties were seen, as long as the
score is not zero: those with one score are the first that were seen with it. Ties of zeros keep it
too exactly if the engine's rows are in order, or else if the results with the negative zero were
seen behind all matches with zero. Where rankings are fused here, all ties keep it unless both
weights are negative, or the negative zero. -/
theorem search_keeps_ties_iff {policy : Policy} {e : Embedder (StateM σ)}
    {q : QueryEngine (StateM σ)} {r : SearchRequest} {s s' : σ} {a : Answer}
    (hsearch : (search policy e q r).run s = (.ok a, s')) :
    ∃ embedding t seen,
      (e.vector a.parameters.query).run s = (.ok embedding, t) ∧
      q.Sees (a.parameters.engineRequest embedding) t s' policy.fusion seen ∧
      (∀ x, (x == 0) = false →
        a.results.filter (·.score == x) <+: seen.filter (·.score == x)) ∧
      (KeepsTies seen a.results ↔
        InOrder policy.fusion seen ∨ NegZerosLast seen a.results) ∧
      (policy.fusion = .inCore → Unsigned r.fullTextWeight ∨ Unsigned r.semanticWeight →
        KeepsTies seen a.results) := by
  obtain ⟨p, embedding, t, results, haccept, hvector, hrun, rfl⟩ := search_eq_ok_iff.1 hsearch
  obtain ⟨-, -, method, -, hp⟩ := accept_eq_ok_iff.1 haccept
  obtain ⟨seen, hsees, hresults⟩ := QueryEngine.exists_sees hrun
  obtain ⟨hties, hiff⟩ := keepsTies_iff hresults
  refine ⟨embedding, t, seen, hvector, hsees, hties, hiff, fun hmode hw => ?_⟩
  have hw : Unsigned p.fullTextWeight ∨ Unsigned p.semanticWeight := by
    rw [hp]
    exact hw
  rcases hresults with ⟨horder, -⟩ | ⟨-, rfl⟩
  · cases hmode.symm.trans horder.1
  · rw [hmode] at hsees
    exact keepsTies_take_ranked (hsees.ne_negZero hw) _

/-- A row without content. -/
def bareMatch (id : Int) (score : Binary64) : Match :=
  ⟨⟨.int id, none, .null, none⟩, none, none, none, none, score⟩

/-- Rows with both zeros, in numeric order. -/
def zeroRows : List Match := [bareMatch 1 (-0.0), bareMatch 2 0.0]

/-- A search of `zeroRows` keeps their order. -/
theorem search_keeps_ties_iff_zeroRows :
    ∃ a, (search ⟨10, 100, false, .engine⟩ ⟨2, fun _ => return .ok [0, 1]⟩
        (lavishEngine zeroRows) modestRequest).run () = (.ok a, ()) ∧
      KeepsTies zeroRows a.results ∧
      a.results.map (·.document.id) = [.int 1, .int 2] := by
  have hquery : (Text.trimmed "two").isEmpty = false := by decide
  obtain ⟨p, haccept⟩ : ∃ p, (⟨10, 100, false, .engine⟩ : Policy).accept modestRequest = .ok p :=
    exists_accept hquery rfl rfl
  have hsearch : (search ⟨10, 100, false, .engine⟩ ⟨2, fun _ => return .ok [0, 1]⟩
      (lavishEngine zeroRows) modestRequest).run () =
        (.ok (.of (settle p.matchCount zeroRows) p .engine), ()) :=
    search_eq_ok_iff.2 ⟨p, [0, 1], (), _, haccept, rfl, rfl, rfl⟩
  have hcount : p.matchCount = 10 := by
    obtain ⟨-, -, method, -, rfl⟩ := accept_eq_ok_iff.1 haccept
    rfl
  obtain ⟨embedding, t, seen, -, hsees, -, hiff, -⟩ := search_keeps_ties_iff hsearch
  have hseen : seen = zeroRows := by
    cases hsees with
    | engine h =>
      cases h
      rfl
  subst hseen
  have hids : (settle 10 zeroRows).map (·.document.id) = [.int 1, .int 2] := by decide
  refine ⟨_, hsearch, hiff.2 (.inl ⟨rfl, by decide⟩), ?_⟩
  rw [hcount]
  exact hids

/-- The rows of `zeroRows`, and behind them one that scores higher. -/
def zeroRowsAndMore : List Match := zeroRows ++ [bareMatch 3 0.5]

/-- Rankings of two documents, of which the second one is found by one source only. -/
def twoDocuments : Rankings :=
  ⟨[⟨⟨.int 1, none, .null, none⟩, 1, none⟩, ⟨⟨.int 2, none, .null, none⟩, 2, none⟩],
    [⟨⟨.int 1, none, .null, none⟩, 1, none⟩]⟩

/-- With a third row, which ties with none of them, the rows of `zeroRows` change places. So do two
documents whose fused scores are zeros, as the negative zero is for both weights. -/
theorem not_keepsTies_zeros :
    ((settle 10 zeroRowsAndMore).map (·.document.id) = [.int 3, .int 2, .int 1] ∧
      ¬ KeepsTies zeroRowsAndMore (settle 10 zeroRowsAndMore)) ∧
    (fuse ⟨-0.0, -0.0, 50, 10⟩ twoDocuments.keyword twoDocuments.semantic).map
        (·.document.id) = [.int 2, .int 1] ∧
      ¬ KeepsTies
        (referenceMatches ⟨-0.0, -0.0, 50, 10⟩ twoDocuments.keyword twoDocuments.semantic)
        (fuse ⟨-0.0, -0.0, 50, 10⟩ twoDocuments.keyword twoDocuments.semantic) := by
  have hsettle : settle 10 zeroRowsAndMore =
      (zeroRowsAndMore.insertionSort MayPrecede).take 10 := by
    rw [← ranked_eq_insertionSort]
    rfl
  rw [hsettle, fuse_eq_ranked, ranked_eq_insertionSort]
  refine ⟨⟨by decide, fun h => ?_⟩, by decide +kernel, fun h => ?_⟩
  · have hids := (h 0).map (·.document.id)
    revert hids
    decide
  · have hids := (h 0).map (·.document.id)
    revert hids
    decide +kernel

end SearchGateway
