import SearchGateway.Proofs.Search.Remote
import SearchGateway.Wire.Scripted

/-!
# What is sent, and what is echoed

A search over a network tells its parameters twice: to the collaborators, in the requests that it
posts, and to the client, in the answer. Both are built from the parameters that validation fixed,
field by field and under different keys (`echoedKeys`); `search_sends_as_echoed` says that they
agree.
-/

namespace SearchGateway

open Wire (Client Exchange)

/-- The parameters of a call that an answer echoes: the key in the call, and the one in the
answer. -/
def echoedKeys : List (String × String) :=
  [("query_text", "query"), ("match_count", "match_count"),
    ("metadata_filter", "transformed_filter"), ("full_text_weight", "full_text_weight"),
    ("semantic_weight", "semantic_weight"), ("rrf_k", "rrf_k"),
    ("distance_method", "distance_method")]

/-- A request asks a provider for the embedding of a text. -/
structure AsksForEmbedding (provider : EmbeddingProvider) (text : String) (x : Wire.Request) :
    Prop where
  url : x.url = provider.endpoint
  input : x.body.get? "input" = some (.string text)
  dimensions : x.body.get? "dimensions" = some (.int provider.dimensions)

/-- A request calls the engine's function with parameters and an embedding. Where the rankings are
fused here, it also says how long they are to be: as long as configured, and no shorter than the
list of results. -/
structure CallsWith (engine : Rpc.Engine) (mode : FusionMode) (p : Parameters)
    (embedding : List Float32) (y : Wire.Request) : Prop where
  url : y.url = Rpc.endpoint engine.credentials.url (engine.functionFor mode)
  echoed : ∀ keys ∈ echoedKeys, ∃ v, y.body.get? keys.1 = some v ∧ p.toJson.get? keys.2 = some v
  embedding : y.body.get? "query_embedding" = some (.array (embedding.map Json.ofSingle))
  noCandidates : mode = .engine → y.body.get? "candidate_count" = none
  candidates : mode = .inCore → ∃ count,
    y.body.get? "candidate_count" = some (Json.ofWord32 count) ∧
      count = max engine.candidateCount p.matchCount ∧ p.matchCount ≤ count

/-- An engine can be asked: its function has a proper name, and the call can be sent. -/
def CanAsk (engine : Rpc.Engine) (mode : FusionMode) (r : EngineRequest) : Prop :=
  Rpc.isFunctionName (engine.functionFor mode) = true ∧
    ∃ url, (engine.requestFor mode r).target = .ok url

/-- The provider's request asks for the embedding. -/
theorem asksForEmbedding_request (provider : EmbeddingProvider) (text : String) :
    AsksForEmbedding provider text (provider.request text) :=
  ⟨rfl, rfl, rfl⟩

/-- Both functions get the parameters of the request. -/
theorem get?_parametersFor (engine : Rpc.Engine) (r : EngineRequest) (mode : FusionMode)
    {key : String} (h : key ≠ "candidate_count") :
    (engine.parametersFor r mode).get? key = r.fields.lookup key := by
  cases mode with
  | engine => rfl
  | inCore =>
    change List.lookup key (("candidate_count", _) :: r.fields) = _
    rw [List.lookup_cons, beq_false_of_ne h]

/-- The rankings are to be no shorter than the list of results. -/
theorem matchCount_le_hitsPerSource (engine : Rpc.Engine) (r : EngineRequest) :
    r.matchCount ≤ engine.hitsPerSource r := by
  change r.matchCount ≤
    if engine.candidateCount ≤ r.matchCount then r.matchCount else engine.candidateCount
  split
  · exact UInt32.le_refl _
  · next hlt => exact UInt32.le_of_lt (UInt32.not_le.1 hlt)

/-- The call that a search makes has the parameters of the search. -/
theorem callsWith_requestFor (engine : Rpc.Engine) (mode : FusionMode) (p : Parameters)
    (embedding : List Float32) :
    CallsWith engine mode p embedding (engine.requestFor mode (p.engineRequest embedding)) where
  url := rfl
  echoed := by
    have hpairs : ∀ keys ∈ echoedKeys, keys.1 ≠ "candidate_count" ∧
        ∃ v, (p.engineRequest embedding).fields.lookup keys.1 = some v ∧
          p.toJson.get? keys.2 = some v := by
      simp only [echoedKeys, List.forall_mem_cons]
      refine ⟨⟨by decide, _, rfl, rfl⟩, ⟨by decide, _, rfl, rfl⟩, ⟨by decide, _, rfl, rfl⟩,
        ⟨by decide, _, rfl, rfl⟩, ⟨by decide, _, rfl, rfl⟩, ⟨by decide, _, rfl, rfl⟩,
        ⟨by decide, _, rfl, rfl⟩, nofun⟩
    intro keys hkeys
    obtain ⟨hne, v, hsent, htold⟩ := hpairs keys hkeys
    exact ⟨v, (get?_parametersFor _ _ _ hne).trans hsent, htold⟩
  embedding := get?_parametersFor _ _ _ (by decide)
  noCandidates := by
    rintro rfl
    rfl
  candidates := by
    rintro rfl
    exact ⟨_, rfl, rfl, matchCount_le_hitsPerSource engine (p.engineRequest embedding)⟩

/-- Whatever the network does, an accepted request leads to no more than two requests, each of which
is sent where it can be: one for the embedding of the trimmed query, and after it, if the reply
brings as many components as configured, a call with this embedding. Every parameter that an answer
echoes is the one in the call, and the filters that it echoes are the client's and its normal form.
An answer comes after both requests; where the rankings are fused here, its results are their fusion
by the weights, the constant and the number of results that it echoes. -/
theorem search_sends_as_echoed {σ : Type} (client : Client (StateM σ)) (policy : Policy)
    (provider : EmbeddingProvider) (engine : Rpc.Engine) (r : SearchRequest) (p : Parameters)
    (s : σ) (before : List Exchange) (haccept : policy.accept r = .ok p) :
    (p.toJson.get? "query" = some (.string (Text.trimmed r.query)) ∧
      p.toJson.get? "original_filter" = some r.filter ∧
      p.toJson.get? "transformed_filter" = some (Filter.normalForm r.filter)) ∧
    ∃ outcome s' made,
      (search policy (provider.embedder client.recording) (engine.queryEngine client.recording)
        r).run (s, before) = (outcome, s', before ++ made) ∧
      (made = [] ∧ (∃ f, (provider.request p.query).target = .error f) ∨
        ∃ x calls, made = x :: calls ∧
          AsksForEmbedding provider (Text.trimmed r.query) x.request ∧
          (calls = [] ∧ (∀ embedding, provider.outcomeOf x.outcome = .ok embedding →
              ¬ CanAsk engine policy.fusion (p.engineRequest embedding)) ∨
            ∃ y reply embedding, calls = [y] ∧ x.outcome = .ok reply ∧
              EmbeddingProvider.vectorOf reply = .ok embedding ∧
              embedding.length = provider.dimensions ∧
              CallsWith engine policy.fusion p embedding y.request)) ∧
      ∀ a, outcome = .ok a → a.toJson.get? "search_params" = some p.toJson ∧
        ∃ x y reply, made = [x, y] ∧ y.outcome = .ok reply ∧
          (policy.fusion = .inCore → ∃ c,
            Rpc.resultOf SourcedHit.listShape Rpc.Engine.rankings? reply = .ok c ∧
            a.results = fuse ⟨p.fullTextWeight, p.semanticWeight, p.rrfK, p.matchCount⟩
              c.keyword c.semantic) := by
  obtain ⟨outcome, s', made, hrun, hconversation⟩ :=
    exists_conversation client provider engine haccept s before
  obtain ⟨-, -, method, -, hp⟩ := accept_eq_ok_iff.1 haccept
  have hquery : p.query = Text.trimmed r.query := by rw [hp]
  have hfilters : p.filters = .of r.filter := by rw [hp]
  have hasks : AsksForEmbedding provider (Text.trimmed r.query) (provider.request p.query) :=
    hquery ▸ asksForEmbedding_request provider p.query
  refine ⟨⟨?_, ?_, ?_⟩, outcome, s', made, hrun, ?_, ?_⟩
  · rw [← hquery]
    rfl
  · change some p.filters.raw = _
    rw [hfilters]
    rfl
  · change some p.filters.normal = _
    rw [hfilters]
    rfl
  · cases hconversation with
    | unasked htarget => exact .inl ⟨rfl, _, htarget⟩
    | unembedded hembed =>
      refine .inr ⟨_, _, rfl, hasks, .inl ⟨rfl, fun embedding hsome => ?_⟩⟩
      cases hembed.symm.trans hsome
    | misnamed _ hname =>
      exact .inr ⟨_, _, rfl, hasks, .inl ⟨rfl, fun _ _ hask => hname hask.1⟩⟩
    | uncalled hembed htarget =>
      refine .inr ⟨_, _, rfl, hasks, .inl ⟨rfl, fun embedding hsome hask => ?_⟩⟩
      cases hembed.symm.trans hsome
      obtain ⟨-, url, hurl⟩ := hask
      cases htarget.symm.trans hurl
    | failed hembed | answered hembed =>
      obtain ⟨reply, rfl, hvector, hlength⟩ := EmbeddingProvider.outcomeOf_eq_ok_iff.1 hembed
      exact .inr ⟨_, _, rfl, hasks, .inr ⟨_, reply, _, rfl, rfl, hvector, hlength,
        callsWith_requestFor engine policy.fusion p _⟩⟩
  · rintro a rfl
    cases hconversation with
    | answered hembed hresults =>
      refine ⟨rfl, ?_⟩
      cases hmode : policy.fusion with
      | engine =>
        rw [hmode] at hresults
        obtain ⟨reply, rows, rfl, -, -⟩ := Rpc.Engine.map_outcomeOf_eq_ok_iff.1 hresults
        exact ⟨_, _, reply, rfl, rfl, nofun⟩
      | inCore =>
        rw [hmode] at hresults
        obtain ⟨reply, c, rfl, hc, rfl⟩ := Rpc.Engine.map_outcomeOf_eq_ok_iff.1 hresults
        exact ⟨_, _, reply, rfl, rfl, fun _ => ⟨c, hc, rfl⟩⟩

/-- A network with a provider of one embedding, which has two components, and a database that finds
nothing. -/
def smallNetwork : Wire.Traffic :=
  .of
    [⟨"provider", "[::1]:8001",
        [⟨⟨200⟩, "\x7b\"data\": [\x7b\"embedding\": [0.5, 1]\x7d]\x7d"⟩]⟩,
      ⟨"database", "[::1]:8002", []⟩]

/-- The provider in `smallNetwork`. -/
def smallProvider : EmbeddingProvider := ⟨"http://[::1]:8001", "key", "small", 2⟩

/-- The database in `smallNetwork`, with rankings of fifty hits. -/
def smallDatabase : Rpc.Engine := ⟨⟨"http://[::1]:8002", "key"⟩, "fused", "ranked", 50⟩

/-- A request for sixty results. -/
def pricingRequest : SearchRequest := ⟨" pricing ", .object [], some 60, 1, 2, 50, "cosine"⟩

/-- A search in `smallNetwork` for sixty results asks for sixty candidates, and succeeds. -/
theorem search_sends_as_echoed_pricing :
    ∃ p a s' x y,
      (⟨10, 100, false, .inCore⟩ : Policy).accept pricingRequest = .ok p ∧
      (search ⟨10, 100, false, .inCore⟩ (smallProvider.embedder Wire.scripted.recording)
        (smallDatabase.queryEngine Wire.scripted.recording) pricingRequest).run
          (smallNetwork, []) = (.ok a, s', [x, y]) ∧
      a.toJson.get? "search_params" = some p.toJson ∧
      x.request.body.get? "input" = some (.string "pricing") ∧
      y.request.body.get? "query_text" = some (.string "pricing") ∧
      y.request.body.get? "candidate_count" = some (.int 60) := by
  have hquery : (Text.trimmed " pricing ").isEmpty = false := by decide
  obtain ⟨p, haccept⟩ : ∃ p, (⟨10, 100, false, .inCore⟩ : Policy).accept pricingRequest = .ok p :=
    exists_accept hquery rfl rfl
  have hok : ((search ⟨10, 100, false, .inCore⟩ (smallProvider.embedder Wire.scripted.recording)
      (smallDatabase.queryEngine Wire.scripted.recording) pricingRequest).run
        (smallNetwork, [])).1.isOk = true := by decide +kernel
  obtain ⟨-, outcome, s', made, hrun, hmade, hanswer⟩ :=
    search_sends_as_echoed Wire.scripted ⟨10, 100, false, .inCore⟩ smallProvider smallDatabase
      pricingRequest p smallNetwork [] haccept
  rw [hrun] at hok
  cases outcome with
  | error f => cases hok
  | ok a =>
    obtain ⟨hparams, x, y, reply, rfl, -, -⟩ := hanswer a rfl
    rcases hmade with ⟨hnone, -⟩ | ⟨x', calls, hcons, hasks, hcalls⟩
    · cases hnone
    · cases hcons
      rcases hcalls with ⟨hnone, -⟩ | ⟨y', reply, embedding, hone, -, -, -, hcall⟩
      · cases hnone
      · cases hone
        have hp : p.query = "pricing" ∧ p.matchCount = 60 := by
          obtain ⟨-, -, method, -, rfl⟩ := accept_eq_ok_iff.1 haccept
          exact ⟨rfl, rfl⟩
        refine ⟨p, a, s', x, y, haccept, hrun, hparams, hasks.input, ?_, ?_⟩
        · obtain ⟨v, hsent, htold⟩ := hcall.echoed ("query_text", "query") (by decide)
          rw [hsent, ← htold, ← hp.1]
          rfl
        · obtain ⟨count, hcount, rfl, -⟩ := hcall.candidates rfl
          rw [hcount, hp.2]
          rfl

end SearchGateway
