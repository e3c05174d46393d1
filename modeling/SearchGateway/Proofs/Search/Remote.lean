import SearchGateway.Embedding
import SearchGateway.Proofs.Search.Run
import SearchGateway.Proofs.Search.Validation
import SearchGateway.Rpc.Engine

/-!
# Searches over a network

Both remote collaborators work alike: they post one request, unless they refuse to, and their
outcome is read off what comes of it (`run_vector`, `run_queryEngine`). Which requests they post,
and how a reply is read, is said here in one place for both modes.

`Client.recording` makes any client keep a record of what it delivers. It changes neither what
comes of a request nor the state of the client that it wraps (`run_post_recording`), so what is
shown of the record holds of every client. `Conversation` lists what the search for an accepted
request can put on record, with the outcome that goes with it (`exists_conversation`).
-/

namespace SearchGateway

namespace Wire

/-- A request that was delivered, and what came of it. -/
structure Exchange where
  request : Request
  outcome : Except SendFault Reply

/-- The exchange that posting a request leads to, if it can be sent at all. -/
def Request.exchanges (r : Request) (outcome : Except SendFault Reply) : List Exchange :=
  match r.target with
  | .error _ => []
  | .ok _ => [⟨r, outcome⟩]

variable {σ : Type}

/-- A client that records its exchanges, in order. -/
def Client.recording (client : Client (StateM σ)) : Client (StateM (σ × List Exchange)) where
  deliver url r := do
    let (s, exchanges) ← get
    let (outcome, s') := (client.deliver url r).run s
    set (s', exchanges ++ [⟨r, outcome⟩])
    return outcome

/-- A recording client does what the client that it wraps does, and adds the exchange. -/
theorem run_post_recording (client : Client (StateM σ)) (r : Request) (s : σ)
    (exchanges : List Exchange) :
    (client.recording.post r).run (s, exchanges) =
      (((client.post r).run s).1, ((client.post r).run s).2,
        exchanges ++ r.exchanges ((client.post r).run s).1) := by
  unfold Client.post Request.exchanges
  cases r.target with
  | error f => exact congrArg (fun es => (_, s, es)) (List.append_nil exchanges).symm
  | ok url => rfl

end Wire

open Wire (Client Exchange Reply SendFault)

variable {σ : Type}

namespace EmbeddingProvider

/-- What an embedder makes of the outcome of its request. -/
def outcomeOf (provider : EmbeddingProvider) :
    Except SendFault Reply → Except Failure (List Float32)
  | .error f => .error (.embedding f.message)
  | .ok reply => (vectorOf reply).bind (checkDimensions provider.dimensions)

/-- The embedding of a text that is not blank takes one request. -/
theorem run_vector (provider : EmbeddingProvider) (client : Client (StateM σ)) {text : String}
    (h : (Text.trimmed text).isEmpty = false) (s : σ) :
    ((provider.embedder client).vector text).run s =
      Prod.map provider.outcomeOf id ((client.post (provider.request text)).run s) := by
  unfold Embedder.vector EmbeddingProvider.embedder
  dsimp only
  simp only [h, Bool.false_eq_true, if_false, StateT.run_bind]
  rcases (client.post (provider.request text)).run s with ⟨f | reply, t⟩
  · rfl
  · rfl

/-- An embedding is the one that a successful reply brings, and has the provider's number of
components. -/
theorem outcomeOf_eq_ok_iff {provider : EmbeddingProvider} {outcome : Except SendFault Reply}
    {embedding : List Float32} :
    provider.outcomeOf outcome = .ok embedding ↔
      ∃ reply, outcome = .ok reply ∧ vectorOf reply = .ok embedding ∧
        embedding.length = provider.dimensions := by
  cases outcome with
  | error f => simp [outcomeOf]
  | ok reply =>
    cases hvector : vectorOf reply with
    | error f => simp [outcomeOf, hvector, Except.bind]
    | ok v =>
      simp only [outcomeOf, hvector, Except.bind, checkDimensions, Except.ok.injEq,
        exists_eq_left']
      split
      · next hlength =>
        simp only [Except.ok.injEq]
        exact ⟨fun h => ⟨h, h ▸ hlength⟩, And.left⟩
      · next hlength =>
        simp only [reduceCtorEq, false_iff, not_and]
        rintro rfl
        exact hlength

end EmbeddingProvider

namespace Rpc

/-- What a call makes of the outcome of its request. -/
def outcomeOf {α : Type} (shape : Shape) (decode : Json → Option α) :
    Except SendFault Reply → Except Fault α
  | .error f => .error (.unanswered f)
  | .ok reply => resultOf shape decode reply

/-- A call takes one request, and none where the function has no proper name. -/
theorem run_call {α : Type} (client : Client (StateM σ)) (c : Credentials) (function : String)
    (parameters : Json) (shape : Shape) (decode : Json → Option α) (s : σ) :
    (call client c function parameters shape decode).run s =
      if isFunctionName function then
        Prod.map (outcomeOf shape decode) id ((client.post (c.request function parameters)).run s)
      else (.error (.invalidFunction function), s) := by
  unfold call
  cases isFunctionName function with
  | false => rfl
  | true =>
    simp only [Bool.not_true, Bool.false_eq_true, if_false, if_true, StateT.run_bind]
    rcases (client.post (c.request function parameters)).run s with ⟨f | reply, t⟩
    · rfl
    · rfl

namespace Engine

/-- The function of the database that a search calls. -/
def functionFor (e : Engine) : FusionMode → String
  | .engine => e.hybridFunction
  | .inCore => e.candidatesFunction

/-- The parameters of the function that a search calls. -/
def parametersFor (e : Engine) (r : EngineRequest) : FusionMode → Json
  | .engine => hybridParameters r
  | .inCore => e.candidatesParameters r

/-- The request that calls the function. -/
def requestFor (e : Engine) (mode : FusionMode) (r : EngineRequest) : Wire.Request :=
  e.credentials.request (e.functionFor mode) (e.parametersFor r mode)

/-- What a search makes of the outcome of the request. -/
def resultsOf (mode : FusionMode) (r : EngineRequest) (outcome : Except SendFault Reply) :
    Except Fault (List Match) :=
  match mode with
  | .engine => (outcomeOf Match.listShape matches? outcome).map (settle r.matchCount)
  | .inCore =>
    (outcomeOf SourcedHit.listShape rankings? outcome).map fun c =>
      fuse r.fusionParameters c.keyword c.semantic

/-- A request without an answer brings no results. -/
theorem resultsOf_error (mode : FusionMode) (r : EngineRequest) (f : SendFault) :
    resultsOf mode r (.error f) = .error (.unanswered f) := by
  cases mode <;> rfl

/-- What is made of the result of a call comes of a reply that brings one. -/
theorem map_outcomeOf_eq_ok_iff {α β : Type} {shape : Shape} {decode : Json → Option α}
    {workUp : α → β} {outcome : Except SendFault Reply} {b : β} :
    (outcomeOf shape decode outcome).map workUp = .ok b ↔
      ∃ reply a, outcome = .ok reply ∧ resultOf shape decode reply = .ok a ∧ b = workUp a := by
  cases outcome with
  | error f => simp [outcomeOf, Except.map]
  | ok reply =>
    cases hresult : resultOf shape decode reply with
    | error f => simp [outcomeOf, hresult, Except.map]
    | ok a => simp [outcomeOf, hresult, Except.map, eq_comm]

/-- `run_call` for a call whose fault is then told as a failure, and whose result is worked up. -/
theorem run_call_worked_up {α : Type} (client : Client (StateM σ)) (c : Credentials)
    (function : String) (parameters : Json) (shape : Shape) (decode : Json → Option α)
    (workUp : α → List Match) (s : σ) :
    Prod.map (fun result => (result.mapError failure).map workUp) id
        ((call client c function parameters shape decode).run s) =
      if isFunctionName function then
        Prod.map (fun outcome => ((outcomeOf shape decode outcome).map workUp).mapError failure) id
          ((client.post (c.request function parameters)).run s)
      else (.error (failure (.invalidFunction function)), s) := by
  rw [run_call]
  split
  · rcases (client.post (c.request function parameters)).run s with ⟨outcome, t⟩
    refine congrArg (·, t) ?_
    dsimp only
    cases outcomeOf shape decode outcome with
    | error f => rfl
    | ok a => rfl
  · rfl

/-- Asking the engine takes one request, and none where the function has no proper name. -/
theorem run_queryEngine (e : Engine) (client : Client (StateM σ)) (mode : FusionMode)
    (r : EngineRequest) (s : σ) :
    ((e.queryEngine client).run mode r).run s =
      if isFunctionName (e.functionFor mode) then
        Prod.map (fun outcome => (resultsOf mode r outcome).mapError failure) id
          ((client.post (e.requestFor mode r)).run s)
      else (.error (failure (.invalidFunction (e.functionFor mode))), s) := by
  cases mode with
  | engine => exact run_call_worked_up client ..
  | inCore => exact run_call_worked_up client ..

end Engine

end Rpc

/-! ## What a search leads to -/

/-- What posting a request leads to: its exchange, or none where it cannot be sent. The result is
read off the outcome. -/
inductive Posted {α : Type} (r : Wire.Request) (read : Except SendFault Reply → α) :
    List Exchange → α → Prop where
  | unsent {fault : SendFault} (htarget : r.target = .error fault) :
    Posted r read [] (read (.error fault))
  | sent {url : Wire.Url} {outcome : Except SendFault Reply} (htarget : r.target = .ok url) :
    Posted r read [⟨r, outcome⟩] (read outcome)

/-- The record of a client that posts a request. -/
theorem exists_posted {α : Type} (read : Except SendFault Reply → α) (client : Client (StateM σ))
    (r : Wire.Request) (s : σ) (before : List Exchange) :
    ∃ result s' made,
      Prod.map read id ((client.recording.post r).run (s, before)) = (result, s', before ++ made) ∧
        Posted r read made result := by
  rw [Wire.run_post_recording]
  refine ⟨_, _, _, rfl, ?_⟩
  unfold Wire.Request.exchanges Client.post
  cases htarget : r.target with
  | error fault => exact .unsent htarget
  | ok url => exact .sent htarget

/-- What an accepted request leads to: the exchanges with the collaborators, and the outcome of the
search. -/
inductive Conversation (provider : EmbeddingProvider) (engine : Rpc.Engine) (mode : FusionMode)
    (p : Parameters) : List Exchange → Except Failure Answer → Prop where
  /-- The request for the embedding cannot be sent. -/
  | unasked {fault : SendFault} (htarget : (provider.request p.query).target = .error fault) :
    Conversation provider engine mode p []
      (.error ((Failure.embedding fault.message).during .embedding p.filters))
  /-- No embedding comes. -/
  | unembedded {outcome : Except SendFault Reply} {f : Failure}
      (hembed : provider.outcomeOf outcome = .error f) :
    Conversation provider engine mode p [⟨provider.request p.query, outcome⟩]
      (.error (f.during .embedding p.filters))
  /-- The engine's function cannot be called by its name. -/
  | misnamed {outcome : Except SendFault Reply} {embedding : List Float32}
      (hembed : provider.outcomeOf outcome = .ok embedding)
      (hname : ¬ Rpc.isFunctionName (engine.functionFor mode)) :
    Conversation provider engine mode p [⟨provider.request p.query, outcome⟩]
      (.error ((Rpc.Engine.failure (.invalidFunction (engine.functionFor mode))).during .queryEngine
        p.filters))
  /-- The call of the engine's function cannot be sent. -/
  | uncalled {outcome : Except SendFault Reply} {embedding : List Float32} {fault : SendFault}
      (hembed : provider.outcomeOf outcome = .ok embedding)
      (htarget : (engine.requestFor mode (p.engineRequest embedding)).target = .error fault) :
    Conversation provider engine mode p [⟨provider.request p.query, outcome⟩]
      (.error ((Rpc.Engine.failure (.unanswered fault)).during .queryEngine p.filters))
  /-- The engine is asked, and brings no results. -/
  | failed {outcome called : Except SendFault Reply} {embedding : List Float32} {f : Rpc.Fault}
      (hembed : provider.outcomeOf outcome = .ok embedding)
      (hresults : Rpc.Engine.resultsOf mode (p.engineRequest embedding) called = .error f) :
    Conversation provider engine mode p
      [⟨provider.request p.query, outcome⟩,
        ⟨engine.requestFor mode (p.engineRequest embedding), called⟩]
      (.error ((Rpc.Engine.failure f).during .queryEngine p.filters))
  /-- The engine brings results. -/
  | answered {outcome called : Except SendFault Reply} {embedding : List Float32}
      {results : List Match} (hembed : provider.outcomeOf outcome = .ok embedding)
      (hresults : Rpc.Engine.resultsOf mode (p.engineRequest embedding) called = .ok results) :
    Conversation provider engine mode p
      [⟨provider.request p.query, outcome⟩,
        ⟨engine.requestFor mode (p.engineRequest embedding), called⟩]
      (.ok (.of results p mode))

/-- The search for an accepted request is a conversation. -/
theorem exists_conversation (client : Client (StateM σ)) (provider : EmbeddingProvider)
    (engine : Rpc.Engine) {policy : Policy} {r : SearchRequest} {p : Parameters}
    (haccept : policy.accept r = .ok p) (s : σ) (before : List Exchange) :
    ∃ outcome s' made,
      (search policy (provider.embedder client.recording) (engine.queryEngine client.recording)
        r).run (s, before) = (outcome, s', before ++ made) ∧
      Conversation provider engine policy.fusion p made outcome := by
  rw [run_search_of_accepted haccept,
    EmbeddingProvider.run_vector provider client.recording (isEmpty_trimmed_query haccept)]
  obtain ⟨embedded, t, made, hvector, hposted⟩ :=
    exists_posted provider.outcomeOf client (provider.request p.query) s before
  rw [hvector]
  cases hposted with
  | unsent htarget => exact ⟨_, t, [], rfl, .unasked htarget⟩
  | @sent _ outcome =>
    cases hembed : provider.outcomeOf outcome with
    | error f => exact ⟨_, t, _, rfl, .unembedded hembed⟩
    | ok embedding =>
      dsimp only
      rw [Rpc.Engine.run_queryEngine]
      by_cases hname : Rpc.isFunctionName (engine.functionFor policy.fusion)
      · rw [if_pos hname]
        obtain ⟨found, u, more, hcall, hcalled⟩ := exists_posted
          (fun outcome => (Rpc.Engine.resultsOf policy.fusion (p.engineRequest embedding)
            outcome).mapError Rpc.Engine.failure)
          client (engine.requestFor policy.fusion (p.engineRequest embedding)) t
          (before ++ [⟨provider.request p.query, outcome⟩])
        rw [hcall, List.append_assoc]
        cases hcalled with
        | unsent htarget =>
          rw [Rpc.Engine.resultsOf_error]
          exact ⟨_, u, _, rfl, .uncalled hembed htarget⟩
        | @sent _ called =>
          cases hresults :
              Rpc.Engine.resultsOf policy.fusion (p.engineRequest embedding) called with
          | error f => exact ⟨_, u, _, rfl, .failed hembed hresults⟩
          | ok results => exact ⟨_, u, _, rfl, .answered hembed hresults⟩
      · rw [if_neg hname]
        exact ⟨_, t, _, rfl, .misnamed hembed hname⟩

end SearchGateway
