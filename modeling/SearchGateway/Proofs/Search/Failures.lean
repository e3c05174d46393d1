import SearchGateway.Proofs.Search.Echo
import Mathlib.Data.List.Forall2
import Mathlib.Data.Prod.Basic

/-!
# How a search over a network ends

A search for an accepted request succeeds exactly if both replies are successes and everything in
them decodes (`EmbeddingProvider.Brings`, `Rpc.Engine.Yields`), and then it lists what all the rows
come to. Else it ends with the failure of a collaborator: the step at which it arose, the message of
what was raised there, and both forms of the filter (`search_ends_by_replies`). Such a failure is
told with no other step any more (`foldl_during_collaborator`).
-/

namespace SearchGateway

open Wire (Client Exchange Reply SendFault)

/-! ## Replies that are successes -/

/-- A value has items exactly if it is an array of them. -/
theorem Json.array?_eq_some_iff {v : Json} {items : List Json} :
    v.array? = some items ↔ v = .array items := by
  cases v <;> simp [Json.array?]

/-- A list is decoded exactly if each of its items is. -/
theorem mapM_eq_some_iff {α β : Type} {f : α → Option β} {xs : List α} {ys : List β} :
    xs.mapM f = some ys ↔ List.Forall₂ (fun x y => f x = some y) xs ys := by
  induction xs generalizing ys with
  | nil => simp [eq_comm]
  | cons x xs ih =>
    simp only [List.mapM_cons, Option.bind_eq_bind, Option.bind_eq_some_iff, Option.pure_def,
      Option.some.injEq, ih, List.forall₂_cons_left_iff]
    constructor
    · rintro ⟨y, hy, ys, hys, rfl⟩
      exact ⟨y, ys, hy, hys, rfl⟩
    · rintro ⟨y, ys, hy, hys, rfl⟩
      exact ⟨y, hy, ys, hys, rfl⟩

namespace EmbeddingProvider

/-- A reply brings an embedding: it is a success that decodes, and its first item has the number of
components that the provider is set to. -/
structure Brings (provider : EmbeddingProvider) (reply : Reply) (v : List Float32) : Prop where
  success : reply.status.isSuccess = true
  first : ∃ later, vectors? reply.text = some (v :: later)
  length : v.length = provider.dimensions

/-- The vector of a reply that is a success is the first one that it lists. -/
theorem vectorOf_eq_ok_iff {reply : Reply} {v : List Float32} :
    vectorOf reply = .ok v ↔
      reply.status.isSuccess = true ∧ ∃ later, vectors? reply.text = some (v :: later) := by
  unfold vectorOf
  cases reply.status.isSuccess with
  | false => simp
  | true =>
    cases vectors? reply.text with
    | none => simp
    | some vectors => cases vectors <;> simp

/-- An embedding comes of a reply that brings it. -/
theorem outcomeOf_eq_ok_iff_brings {provider : EmbeddingProvider}
    {outcome : Except SendFault Reply} {v : List Float32} :
    provider.outcomeOf outcome = .ok v ↔
      ∃ reply, outcome = .ok reply ∧ provider.Brings reply v := by
  rw [outcomeOf_eq_ok_iff]
  refine exists_congr fun reply => and_congr_right fun _ => ?_
  rw [vectorOf_eq_ok_iff]
  exact ⟨fun ⟨⟨hsuccess, hfirst⟩, hlength⟩ => ⟨hsuccess, hfirst, hlength⟩,
    fun h => ⟨⟨h.success, h.first⟩, h.length⟩⟩

end EmbeddingProvider

namespace Rpc

/-- A reply lists rows that all decode. -/
structure Decodes {α : Type} (shape : Shape) (decode : Json → Option α) (reply : Reply)
    (items : List α) : Prop where
  success : reply.status.isSuccess = true
  rows : ∃ rows, Json.read? shape (.ofText reply.text) = some (.array rows) ∧
    List.Forall₂ (fun row item => decode row = some item) rows items

/-- A success is no refusal for want of a right. -/
theorem isForbidden_of_isSuccess {status : Wire.Status} (h : status.isSuccess = true) :
    status.isForbidden = false := by
  simp only [Wire.Status.isSuccess, Bool.and_eq_true, decide_eq_true_eq] at h
  simp only [Wire.Status.isForbidden, Bool.or_eq_false_iff, beq_eq_false_iff_ne]
  omega

/-- A result comes of a reply that is a success and decodes. -/
theorem resultOf_eq_ok_iff {α : Type} {shape : Shape} {decode : Json → Option α} {reply : Reply}
    {a : α} :
    resultOf shape decode reply = .ok a ↔ reply.status.isSuccess = true ∧
      (Json.read? shape (.ofText reply.text)).bind decode = some a := by
  unfold resultOf
  cases hsuccess : reply.status.isSuccess with
  | false => cases reply.status.isForbidden <;> simp
  | true =>
    rw [isForbidden_of_isSuccess hsuccess]
    cases (Json.read? shape (.ofText reply.text)).bind decode <;> simp

/-- A list comes of a reply that is a success, each of whose rows decodes. -/
theorem resultOf_listOf?_eq_ok_iff {α : Type} {shape : Shape} {decode : Json → Option α}
    {reply : Reply} {items : List α} :
    resultOf shape (Json.listOf? decode) reply = .ok items ↔
      Decodes shape decode reply items := by
  rw [resultOf_eq_ok_iff]
  simp only [Option.bind_eq_some_iff, Json.listOf?, Json.array?_eq_some_iff, mapM_eq_some_iff]
  constructor
  · rintro ⟨hsuccess, v, hread, rows, rfl, hrows⟩
    exact ⟨hsuccess, rows, hread, hrows⟩
  · rintro ⟨hsuccess, rows, hread, hrows⟩
    exact ⟨hsuccess, _, hread, rows, rfl, hrows⟩

/-- The rankings of a reply come of its rows. -/
theorem resultOf_rankings?_eq_ok_iff {reply : Reply} {c : Rankings} :
    resultOf SourcedHit.listShape Engine.rankings? reply = .ok c ↔
      ∃ hits, Decodes SourcedHit.listShape SourcedHit.ofJson? reply hits ∧
        c = Rankings.ofRows hits := by
  simp only [← resultOf_listOf?_eq_ok_iff, resultOf_eq_ok_iff, Option.bind_eq_some_iff,
    Engine.rankings?, Option.map_eq_some_iff]
  constructor
  · rintro ⟨hsuccess, v, hread, hits, hhits, rfl⟩
    exact ⟨hits, ⟨hsuccess, v, hread, hhits⟩, rfl⟩
  · rintro ⟨hits, ⟨hsuccess, v, hread, hhits⟩, rfl⟩
    exact ⟨hsuccess, v, hread, hits, hhits, rfl⟩

/-- A reply yields results: it is a success, all of its rows decode for the mode, and the results
are what they come to, all of them taken together. -/
inductive Engine.Yields (r : EngineRequest) (reply : Reply) : FusionMode → List Match → Prop where
  | engine {found : List Match} (h : Decodes Match.listShape Match.ofJson? reply found) :
    Yields r reply .engine (settle r.matchCount found)
  | inCore {hits : List SourcedHit}
      (h : Decodes SourcedHit.listShape SourcedHit.ofJson? reply hits) :
    Yields r reply .inCore
      (fuse r.fusionParameters (Rankings.ofRows hits).keyword (Rankings.ofRows hits).semantic)

/-- Results come of a reply that yields them. -/
theorem Engine.resultsOf_eq_ok_iff {mode : FusionMode} {r : EngineRequest}
    {outcome : Except SendFault Reply} {results : List Match} :
    resultsOf mode r outcome = .ok results ↔
      ∃ reply, outcome = .ok reply ∧ Yields r reply mode results := by
  cases mode with
  | engine =>
    refine map_outcomeOf_eq_ok_iff.trans (exists_congr fun reply => ?_)
    constructor
    · rintro ⟨found, rfl, hresult, rfl⟩
      exact ⟨rfl, .engine (resultOf_listOf?_eq_ok_iff.1 hresult)⟩
    · rintro ⟨rfl, h⟩
      cases h with
      | engine h => exact ⟨_, rfl, resultOf_listOf?_eq_ok_iff.2 h, rfl⟩
  | inCore =>
    refine map_outcomeOf_eq_ok_iff.trans (exists_congr fun reply => ?_)
    constructor
    · rintro ⟨c, rfl, hresult, rfl⟩
      obtain ⟨hits, hdecodes, rfl⟩ := resultOf_rankings?_eq_ok_iff.1 hresult
      exact ⟨rfl, .inCore hdecodes⟩
    · rintro ⟨rfl, h⟩
      cases h with
      | inCore h => exact ⟨_, rfl, resultOf_rankings?_eq_ok_iff.2 ⟨_, h, rfl⟩, rfl⟩

end Rpc

/-! ## Failures -/

/-- A reply that brings no embedding fails as an embedding does. -/
theorem EmbeddingProvider.vectorOf_eq_error {reply : Reply} {f : Failure}
    (h : vectorOf reply = .error f) : ∃ text, f = .embedding text := by
  unfold vectorOf at h
  split at h
  · cases h
    exact ⟨_, rfl⟩
  · split at h <;> cases h <;> exact ⟨_, rfl⟩

/-- What a provider fails with is the failure of an embedding. -/
theorem EmbeddingProvider.outcomeOf_eq_error {provider : EmbeddingProvider}
    {outcome : Except SendFault Reply} {f : Failure} (h : provider.outcomeOf outcome = .error f) :
    ∃ text, f = .embedding text := by
  cases outcome with
  | error fault =>
    cases h
    exact ⟨_, rfl⟩
  | ok reply =>
    change (vectorOf reply).bind (checkDimensions provider.dimensions) = .error f at h
    cases hvector : vectorOf reply with
    | error f' =>
      rw [hvector] at h
      cases h
      exact vectorOf_eq_error hvector
    | ok v =>
      rw [hvector, Except.bind, checkDimensions] at h
      split at h <;> cases h
      exact ⟨_, rfl⟩

/-- The failure of a collaborator stays as it is, with whatever steps and filters it is told. -/
theorem foldl_during_collaborator (later : List (Stage × FilterForms)) (stage : Stage)
    (text : String) (filters : FilterForms) :
    later.foldl (fun (f : Failure) told => f.during told.1 told.2)
        (.collaborator stage text filters) = .collaborator stage text filters := by
  induction later with
  | nil => rfl
  | cons told later ih => exact ih

section
variable {σ : Type} {client : Client (StateM σ)} {provider : EmbeddingProvider}
  {engine : Rpc.Engine} {mode : FusionMode} {p : Parameters} {s : σ} {before made : List Exchange}
  {outcome : Except Failure Answer} {a : Answer} {f : Failure}

/-- A step of a search fails, and the search with it: the embedding, after which the engine is not
asked, or, with the embedding that came, the engine. The failure has the step, the message of what
was raised there, and both forms of the filter. -/
inductive StepFails (client : Client (StateM σ)) (provider : EmbeddingProvider)
    (engine : Rpc.Engine) (mode : FusionMode) (p : Parameters) (raw : Json) (s : σ)
    (before made : List Exchange) : Failure → Prop where
  | embedding {text : String} {t : σ × List Exchange}
      (hraised : ((provider.embedder client.recording).vector p.query).run (s, before) =
        (.error (.embedding text), t))
      (hmade : made = [] ∨ ∃ outcome, made = [⟨provider.request p.query, outcome⟩]) :
    StepFails client provider engine mode p raw s before made
      (.collaborator .embedding (Failure.embedding text).message (.of raw))
  | queryEngine {v : List Float32} {text : String} {t u : σ × List Exchange}
      (hvector : ((provider.embedder client.recording).vector p.query).run (s, before) =
        (.ok v, t))
      (hraised : ((engine.queryEngine client.recording).run mode (p.engineRequest v)).run t =
        (.error (.queryEngine text), u)) :
    StepFails client provider engine mode p raw s before made
      (.collaborator .queryEngine (Failure.queryEngine text).message (.of raw))

/-- A conversation ends with an answer exactly if both replies are there and all in them decodes. -/
theorem Conversation.eq_ok_iff (h : Conversation provider engine mode p made outcome) :
    outcome = .ok a ↔ ∃ v reply reply' results,
      made = [⟨provider.request p.query, .ok reply⟩,
        ⟨engine.requestFor mode (p.engineRequest v), .ok reply'⟩] ∧
      provider.Brings reply v ∧
      Rpc.Engine.Yields (p.engineRequest v) reply' mode results ∧
      a = .of results p mode := by
  constructor
  · rintro rfl
    cases h with
    | answered hembed hresults =>
      obtain ⟨reply, rfl, hbrings⟩ := EmbeddingProvider.outcomeOf_eq_ok_iff_brings.1 hembed
      obtain ⟨reply', rfl, hyields⟩ := Rpc.Engine.resultsOf_eq_ok_iff.1 hresults
      exact ⟨_, reply, reply', _, rfl, hbrings, hyields, rfl⟩
  · rintro ⟨v, reply, reply', results, hmade, hbrings, hyields, rfl⟩
    have hembeds : provider.outcomeOf (.ok reply) = .ok v :=
      EmbeddingProvider.outcomeOf_eq_ok_iff_brings.2 ⟨reply, rfl, hbrings⟩
    have hfinds : Rpc.Engine.resultsOf mode (p.engineRequest v) (.ok reply') = .ok results :=
      Rpc.Engine.resultsOf_eq_ok_iff.2 ⟨reply', rfl, hyields⟩
    -- both exchanges are on record, so the conversation got as far as the engine's reply
    cases h with
    | unasked | unembedded | misnamed | uncalled => cases hmade
    | failed hembed hresults =>
      obtain ⟨rfl, -, rfl⟩ : _ = Except.ok reply ∧ _ ∧ _ = Except.ok reply' := by
        simpa using hmade
      cases hembed.symm.trans hembeds
      cases hresults.symm.trans hfinds
    | answered hembed hresults =>
      obtain ⟨rfl, -, rfl⟩ : _ = Except.ok reply ∧ _ ∧ _ = Except.ok reply' := by
        simpa using hmade
      cases hembed.symm.trans hembeds
      cases hresults.symm.trans hfinds
      rfl

/-- A conversation that ends with the failure of an embedding has no exchange with the engine. -/
theorem Conversation.made_of_embedding {text : String} {filters : FilterForms}
    (h : Conversation provider engine mode p made outcome)
    (hfailed : outcome = .error (.collaborator .embedding text filters)) :
    made = [] ∨ ∃ outcome, made = [⟨provider.request p.query, outcome⟩] := by
  cases h with
  | unasked => exact .inl rfl
  | unembedded => exact .inr ⟨_, rfl⟩
  | misnamed | uncalled | failed =>
    have hstage : Stage.queryEngine = .embedding :=
      (Failure.collaborator.inj (Except.error.inj hfailed)).1
    cases hstage
  | answered => cases hfailed

/-- What the provider raises is the failure of an embedding. -/
theorem exists_text_of_vector {t : σ} {text : String} {client : Client (StateM σ)}
    (hquery : (Text.trimmed text).isEmpty = false)
    (h : ((provider.embedder client).vector text).run s = (.error f, t)) :
    ∃ words, f = .embedding words := by
  rw [EmbeddingProvider.run_vector provider client hquery, Prod.map_apply', Prod.mk.injEq] at h
  exact EmbeddingProvider.outcomeOf_eq_error h.1

/-- What the engine raises is the failure of a query engine. -/
theorem exists_text_of_run {t : σ} {client : Client (StateM σ)} {r : EngineRequest}
    (h : ((engine.queryEngine client).run mode r).run s = (.error f, t)) :
    ∃ words, f = .queryEngine words := by
  rw [Rpc.Engine.run_queryEngine] at h
  split at h
  · rw [Prod.map_apply', Prod.mk.injEq] at h
    obtain ⟨hresults, -⟩ := h
    cases hcalled :
        Rpc.Engine.resultsOf mode r ((client.post (engine.requestFor mode r)).run s).1 with
    | error fault =>
      rw [hcalled] at hresults
      cases hresults
      exact ⟨_, rfl⟩
    | ok results =>
      rw [hcalled] at hresults
      cases hresults
  · cases h
    exact ⟨_, rfl⟩

/-- A search that fails does so at a step. -/
theorem stepFails_of_search {policy : Policy} {r : SearchRequest} {s' : σ}
    (haccept : policy.accept r = .ok p)
    (hrun : (search policy (provider.embedder client.recording)
      (engine.queryEngine client.recording) r).run (s, before) = (.error f, s', before ++ made))
    (hmade : Conversation provider engine policy.fusion p made (.error f)) :
    StepFails client provider engine policy.fusion p r.filter s before made f := by
  rw [run_search_of_accepted haccept, filters_of_accept haccept] at hrun
  rcases hvector : ((provider.embedder client.recording).vector p.query).run (s, before) with
    ⟨f' | v, t⟩
  · obtain ⟨text, rfl⟩ := exists_text_of_vector (isEmpty_trimmed_query haccept) hvector
    rw [hvector] at hrun
    cases hrun
    exact .embedding hvector (hmade.made_of_embedding rfl)
  · rw [hvector] at hrun
    dsimp only at hrun
    rcases hfound : ((engine.queryEngine client.recording).run policy.fusion
      (p.engineRequest v)).run t with ⟨f' | results, u⟩
    · obtain ⟨text, rfl⟩ := exists_text_of_run hfound
      rw [hfound] at hrun
      cases hrun
      exact .queryEngine hvector hfound
    · rw [hfound] at hrun
      cases hrun

end

/-- The search for an accepted request over any network, which is on record, ends in one of two
ways. It is answered exactly if the record has both requests with replies that are successes, of
which the first one brings an embedding of the right length, and all rows of the second one decode;
the answer then lists what all these rows come to. Else a step fails, and the failure of the search
has this step, the message of what was raised there, and both forms of the filter; if the step is
the embedding, the engine has not been asked. No step or filters that it is told later change it. -/
theorem search_ends_by_replies {σ : Type} (client : Client (StateM σ))
    (provider : EmbeddingProvider) (engine : Rpc.Engine) {policy : Policy} {r : SearchRequest}
    {p : Parameters} (haccept : policy.accept r = .ok p) (s : σ) (before : List Exchange) :
    ∃ outcome s' made,
      (search policy (provider.embedder client.recording) (engine.queryEngine client.recording)
        r).run (s, before) = (outcome, s', before ++ made) ∧
      (∀ a, outcome = .ok a ↔ ∃ v reply reply' results,
        made = [⟨provider.request p.query, .ok reply⟩,
          ⟨engine.requestFor policy.fusion (p.engineRequest v), .ok reply'⟩] ∧
        provider.Brings reply v ∧
        Rpc.Engine.Yields (p.engineRequest v) reply' policy.fusion results ∧
        a = .of results p policy.fusion) ∧
      ∀ f, outcome = .error f →
        StepFails client provider engine policy.fusion p r.filter s before made f ∧
        ∀ later : List (Stage × FilterForms),
          later.foldl (fun (f : Failure) told => f.during told.1 told.2) f = f := by
  obtain ⟨outcome, s', made, hrun, hmade⟩ :=
    exists_conversation client provider engine haccept s before
  refine ⟨outcome, s', made, hrun, fun a => hmade.eq_ok_iff, ?_⟩
  rintro f rfl
  have hfails := stepFails_of_search haccept hrun hmade
  refine ⟨hfails, fun later => ?_⟩
  cases hfails <;> exact foldl_during_collaborator ..

/-- `smallNetwork` with a database that lists two hits, of which the second one names no source. -/
def strayNetwork : Wire.Traffic :=
  .of
    [⟨"provider", "[::1]:8001",
        [⟨⟨200⟩, "\x7b\"data\": [\x7b\"embedding\": [0.5, 1]\x7d]\x7d"⟩]⟩,
      ⟨"database", "[::1]:8002",
        [⟨⟨200⟩, "[[1,null,null,null,\"keyword\",1,null],[2,null,null,null,\"other\",2,null]]"⟩]⟩]

/-- In `strayNetwork`, a search fails at the query engine, for all that the first row decodes. -/
theorem search_ends_by_replies_stray :
    ∃ f s' made,
      (search ⟨10, 100, false, .inCore⟩ (smallProvider.embedder Wire.scripted.recording)
        (smallDatabase.queryEngine Wire.scripted.recording) pricingRequest).run
          (strayNetwork, []) = (.error f, s', made) ∧
      made.length = 2 ∧
      f.message = "Search failed during query_engine: Query engine error: ParsingError: " ++
        "Failed to parse response as JSON: error decoding response body" ∧
      ∀ stage filters, f.during stage filters = f := by
  have hquery : (Text.trimmed " pricing ").isEmpty = false := by decide
  obtain ⟨p, haccept⟩ : ∃ p, (⟨10, 100, false, .inCore⟩ : Policy).accept pricingRequest = .ok p :=
    exists_accept hquery rfl rfl
  have hmessage : ((((search ⟨10, 100, false, .inCore⟩
      (smallProvider.embedder Wire.scripted.recording)
      (smallDatabase.queryEngine Wire.scripted.recording) pricingRequest).run
        (strayNetwork, [])).1.map fun _ => ()).mapError Failure.message) =
          .error ("Search failed during query_engine: Query engine error: ParsingError: " ++
            "Failed to parse response as JSON: error decoding response body") := by
    decide +kernel
  have hlength : ((search ⟨10, 100, false, .inCore⟩
      (smallProvider.embedder Wire.scripted.recording)
      (smallDatabase.queryEngine Wire.scripted.recording) pricingRequest).run
        (strayNetwork, [])).2.2.length = 2 := by decide +kernel
  obtain ⟨outcome, s', made, hrun, -, hfails⟩ :=
    search_ends_by_replies Wire.scripted smallProvider smallDatabase haccept strayNetwork []
  rw [hrun] at hmessage hlength
  cases outcome with
  | ok a => cases hmessage
  | error f =>
    obtain ⟨-, hlater⟩ := hfails f rfl
    exact ⟨f, s', _, hrun, hlength, Except.error.inj hmessage,
      fun stage filters => hlater [(stage, filters)]⟩

end SearchGateway
