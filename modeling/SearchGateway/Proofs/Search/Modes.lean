import SearchGateway.Proofs.Ranking.Sorting
import SearchGateway.Proofs.Search.Run
import SearchGateway.Proofs.Search.Validation

/-!
# The two fusion modes

Who fuses the rankings makes no difference to a search, as long as the engine fuses as `fuse` does
(`search_modes_agree`). Matches that an engine fused are put in order where they are not, by another
test than the one that a fusion sorts by, and cut once more; on the outcome of a fusion all of this
is the identity, for any weights (`settle_fuse`).
-/

namespace SearchGateway

/-- Settling leaves what a fusion gives as it is, whether it finds it in order or sorts it again. -/
theorem settle_fuse (p : FusionParameters) (keyword semantic : List Hit) :
    settle p.matchCount (fuse p keyword semantic) = fuse p keyword semantic := by
  have hsorted : (fuse p keyword semantic).Pairwise MayPrecede := by
    rw [fuse_eq]
    exact (pairwise_ranked _).sublist (List.take_sublist _ _)
  have hcut : (fuse p keyword semantic).take p.matchCount.toNat = fuse p keyword semantic := by
    rw [fuse_eq, List.take_take, Nat.min_self]
  change (if inFusedOrder (fuse p keyword semantic) then fuse p keyword semantic
    else ranked (fuse p keyword semantic)).take p.matchCount.toNat = _
  rw [ranked_of_pairwise hsorted, ite_self, hcut]

/-- The same answer, said to be fused by another. -/
def Answer.withFusion (a : Answer) (mode : FusionMode) : Answer :=
  { a with summary := { a.summary with fusion := mode } }

section
variable {σ : Type}

/-- An engine's matches for a request are the fusion of the candidates that it has for it. -/
def QueryEngine.FusesCandidates (q : QueryEngine (StateM σ)) (r : EngineRequest) (s : σ) : Prop :=
  ((q.hybridSearch r).run s).1 =
    ((q.candidates r).run s).1.map fun c => fuse r.fusionParameters c.keyword c.semantic

variable {q : QueryEngine (StateM σ)} {r : EngineRequest} {s : σ}

/-- Asked for matches, such an engine brings the same outcome as asked for candidates. -/
theorem QueryEngine.FusesCandidates.run_eq (h : q.FusesCandidates r s) :
    ((q.run .engine r).run s).1 = ((q.run .inCore r).run s).1 := by
  rw [run_engine, run_inCore]
  dsimp only
  rw [h]
  cases ((q.candidates r).run s).1 with
  | error f => rfl
  | ok c => exact congrArg Except.ok (settle_fuse r.fusionParameters c.keyword c.semantic)

end

/-- If the engine, asked as a search asks it, fuses its candidates as `fuse` does, then the search
has the same outcome in both modes: the same failure, or an answer with the same matches in the same
order, the same parameters and the same summary apart from the mode. Where the request is accepted,
its query embedded and candidates come, the outcome is the answer that lists their fusion. -/
theorem search_modes_agree {σ : Type} (policy : Policy) (e : Embedder (StateM σ))
    (q : QueryEngine (StateM σ)) (r : SearchRequest) (s : σ)
    (hfuses : ∀ p embedding t, policy.accept r = .ok p →
      (e.vector p.query).run s = (.ok embedding, t) →
      q.FusesCandidates (p.engineRequest embedding) t) :
    ((search { policy with fusion := .inCore } e q r).run s).1 =
        ((search { policy with fusion := .engine } e q r).run s).1.map
          (·.withFusion .inCore) ∧
      ∀ p embedding t c, policy.accept r = .ok p →
        (e.vector p.query).run s = (.ok embedding, t) →
        ((q.candidates (p.engineRequest embedding)).run t).1 = .ok c →
        ∃ results,
          results = fuse ⟨r.fullTextWeight, r.semanticWeight, r.rrfK,
            policy.matchCount r.matchCount⟩ c.keyword c.semantic ∧
          ((search { policy with fusion := .engine } e q r).run s).1 =
            .ok (.of results p .engine) ∧
          ((search { policy with fusion := .inCore } e q r).run s).1 =
            .ok (.of results p .inCore) := by
  have haccept : ∀ mode, { policy with fusion := mode }.accept r = policy.accept r :=
    fun _ => rfl
  refine ⟨?_, fun p embedding t c hp hvector hcandidates => ?_⟩
  · cases hp : policy.accept r with
    | error f =>
      rw [run_search_of_refused ((haccept _).trans hp),
        run_search_of_refused ((haccept _).trans hp)]
      rfl
    | ok p =>
      rcases hvector : (e.vector p.query).run s with ⟨f | embedding, t⟩
      · rw [search_of_not_embedded ((haccept _).trans hp) hvector,
          search_of_not_embedded ((haccept _).trans hp) hvector]
        rfl
      · rw [search_of_embedded ((haccept _).trans hp) hvector,
          search_of_embedded ((haccept _).trans hp) hvector]
        dsimp only
        rw [(hfuses p embedding t hp hvector).run_eq]
        cases ((q.run .inCore (p.engineRequest embedding)).run t).1 with
        | error f => rfl
        | ok results => rfl
  · have hrequest : (p.engineRequest embedding).fusionParameters =
        ⟨r.fullTextWeight, r.semanticWeight, r.rrfK, policy.matchCount r.matchCount⟩ := by
      obtain ⟨-, -, method, -, rfl⟩ := accept_eq_ok_iff.1 hp
      rfl
    refine ⟨_, rfl, ?_, ?_⟩
    · rw [search_of_embedded ((haccept _).trans hp) hvector]
      dsimp only
      rw [(hfuses p embedding t hp hvector).run_eq, run_inCore, hcandidates, hrequest]
      rfl
    · rw [search_of_embedded ((haccept _).trans hp) hvector]
      dsimp only
      rw [run_inCore, hcandidates, hrequest]
      rfl

/-- An engine with the given candidates, which fuses them itself and counts its calls. -/
def fusingEngine (c : Rankings) : QueryEngine (StateM Nat) where
  hybridSearch r := do
    modify (· + 1)
    return .ok (fuse r.fusionParameters c.keyword c.semantic)
  candidates _ := do
    modify (· + 1)
    return .ok c

/-- An embedder of two dimensions. -/
def flatEmbedder : Embedder (StateM Nat) := ⟨2, fun _ => return .ok [0, 1]⟩

/-- Rankings that repeat a document, and have an integer and a text of one spelling for
identifiers. -/
def sevenTwice : Rankings :=
  ⟨[⟨⟨.int 7, none, .null, none⟩, 2, some 0.5⟩, ⟨⟨.text "7", none, .null, none⟩, 1, none⟩,
      ⟨⟨.int 7, some "seven", .null, none⟩, 0, none⟩],
    [⟨⟨.text "7", none, .null, none⟩, 3, some 0.25⟩]⟩

/-- A search of `sevenTwice` with a negative weight gives the fusion in both modes. -/
theorem search_modes_agree_sevenTwice :
    ∃ p results,
      results = fuse ⟨1, -2, 50, 1⟩ sevenTwice.keyword sevenTwice.semantic ∧
      ((search ⟨10, 100, false, .engine⟩ flatEmbedder (fusingEngine sevenTwice)
        ⟨"seven", .object [], some 1, 1, -2, 50, "cosine"⟩).run 0).1 =
          .ok (.of results p .engine) ∧
      ((search ⟨10, 100, false, .inCore⟩ flatEmbedder (fusingEngine sevenTwice)
        ⟨"seven", .object [], some 1, 1, -2, 50, "cosine"⟩).run 0).1 =
          .ok (.of results p .inCore) := by
  have hquery : (Text.trimmed "seven").isEmpty = false := by decide
  obtain ⟨p, haccept⟩ : ∃ p, (⟨10, 100, false, .engine⟩ : Policy).accept
      ⟨"seven", .object [], some 1, 1, -2, 50, "cosine"⟩ = .ok p :=
    exists_accept hquery rfl rfl
  have hvector : (flatEmbedder.vector p.query).run 0 = (.ok [0, 1], 0) := rfl
  exact ⟨p, (search_modes_agree ⟨10, 100, false, .engine⟩ flatEmbedder (fusingEngine sevenTwice)
    ⟨"seven", .object [], some 1, 1, -2, 50, "cosine"⟩ 0 fun _ _ _ _ _ => rfl).2
      p [0, 1] 0 sevenTwice haccept hvector rfl⟩

end SearchGateway
