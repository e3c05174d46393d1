import Mathlib
import SearchGateway.Proofs.Ranking.RowOrder
import SearchGateway.Proofs.Search.Failures

/-!
# The order of candidates does not matter

Two databases that list the same candidates, in whatever order, make for the same searches: the
rankings that come of a reply do not show how its rows were ordered, apart from those that tie in
source and rank (`resultOf_rankings?_of_rows`). So asking for candidates is the same computation
over both, and so is every search that fuses rankings (`search_ignores_row_order`).
-/

namespace SearchGateway

open Wire (Client Reply SendFault)

namespace Rpc

/-- Two replies are successes that list the same rows, those in one place in the same order. -/
structure ListsReordered (reply reply' : Reply) : Prop where
  success : reply.status.isSuccess = true
  success' : reply'.status.isSuccess = true
  rows : ∃ rows rows', Json.read? SourcedHit.listShape (.ofText reply.text) = some (.array rows) ∧
    Json.read? SourcedHit.listShape (.ofText reply'.text) = some (.array rows') ∧
    Reordered rows rows'

/-- Two outcomes of a request differ in the order of rows at most. -/
inductive SameButOrder : Except SendFault Reply → Except SendFault Reply → Prop where
  | same (outcome : Except SendFault Reply) : SameButOrder outcome outcome
  | rows {reply reply' : Reply} (h : ListsReordered reply reply') :
    SameButOrder (.ok reply) (.ok reply')

/-- The result of a reply that is a success is what its text comes to. -/
theorem resultOf_of_isSuccess {α : Type} {shape : Shape} {decode : Json → Option α} {reply : Reply}
    (hsuccess : reply.status.isSuccess = true) :
    resultOf shape decode reply =
      (((Json.read? shape (.ofText reply.text)).bind decode).elim (.error .undecodable) .ok) := by
  unfold resultOf
  rw [isForbidden_of_isSuccess hsuccess, hsuccess]
  cases (Json.read? shape (.ofText reply.text)).bind decode <;> rfl

/-- The rankings of a reply do not show how its rows were ordered. -/
theorem resultOf_rankings?_of_rows {reply reply' : Reply} (h : ListsReordered reply reply') :
    resultOf SourcedHit.listShape Engine.rankings? reply' =
      resultOf SourcedHit.listShape Engine.rankings? reply := by
  obtain ⟨rows, rows', hread, hread', hrows⟩ := h.rows
  have hrankings : Engine.rankings? (.array rows') = Engine.rankings? (.array rows) :=
    hrows.rankings_eq
  rw [resultOf_of_isSuccess h.success, resultOf_of_isSuccess h.success', hread, hread',
    Option.bind_some, Option.bind_some, hrankings]

namespace Engine

variable {σ : Type} {engine : Engine} {client client' : Client (StateM σ)}

/-- Two clients bring the candidates of an engine alike, but for the order of rows that stand in
different places. -/
def SameCandidates (engine : Engine) (client client' : Client (StateM σ)) : Prop :=
  ∀ (r : EngineRequest) (s : σ),
    SameButOrder ((client.post (engine.requestFor .inCore r)).run s).1
      ((client'.post (engine.requestFor .inCore r)).run s).1 ∧
    ((client'.post (engine.requestFor .inCore r)).run s).2 =
      ((client.post (engine.requestFor .inCore r)).run s).2

/-- What comes of a request for candidates is read alike. -/
theorem outcomeOf_rankings?_of_sameButOrder {outcome outcome' : Except SendFault Reply}
    (h : SameButOrder outcome outcome') :
    outcomeOf SourcedHit.listShape rankings? outcome' =
      outcomeOf SourcedHit.listShape rankings? outcome := by
  cases h with
  | same => rfl
  | rows h => exact resultOf_rankings?_of_rows h

/-- Asking for candidates, step by step. -/
theorem run_candidates (engine : Engine) (client : Client (StateM σ)) (r : EngineRequest) (s : σ) :
    ((engine.queryEngine client).candidates r).run s =
      if isFunctionName engine.candidatesFunction then
        Prod.map (fun outcome =>
            (outcomeOf SourcedHit.listShape rankings? outcome).mapError failure) id
          ((client.post (engine.requestFor .inCore r)).run s)
      else (.error (failure (.invalidFunction engine.candidatesFunction)), s) := by
  have hrequest : engine.requestFor .inCore r =
      engine.credentials.request engine.candidatesFunction (engine.candidatesParameters r) := rfl
  unfold queryEngine
  dsimp only
  rw [StateT.run_bind, run_call, hrequest]
  by_cases hname : isFunctionName engine.candidatesFunction = true
  · rw [if_pos hname, if_pos hname]
    rcases (client.post (engine.credentials.request engine.candidatesFunction
      (engine.candidatesParameters r))).run s with ⟨outcome, t⟩
    rfl
  · rw [if_neg hname, if_neg hname]
    rfl

/-- Asking for candidates is the same computation. -/
theorem SameCandidates.candidates_eq (h : engine.SameCandidates client client')
    (r : EngineRequest) :
    (engine.queryEngine client').candidates r = (engine.queryEngine client).candidates r := by
  refine StateT.ext fun s => ?_
  rw [run_candidates, run_candidates]
  obtain ⟨hsame, hstate⟩ := h r s
  generalize (client.post (engine.requestFor .inCore r)).run s = posted at hsame hstate
  generalize (client'.post (engine.requestFor .inCore r)).run s = posted' at hsame hstate
  obtain ⟨outcome, t⟩ := posted
  obtain ⟨outcome', t'⟩ := posted'
  cases hstate
  rw [Prod.map_apply', Prod.map_apply', outcomeOf_rankings?_of_sameButOrder hsame]

/-- Candidates come of a reply whose rows all decode, and are the rankings of its sources. -/
theorem run_candidates_eq_ok_iff {r : EngineRequest} {s t : σ} {c : Rankings} :
    ((engine.queryEngine client).candidates r).run s = (.ok c, t) ↔
      isFunctionName engine.candidatesFunction = true ∧
      ∃ reply hits, (client.post (engine.requestFor .inCore r)).run s = (.ok reply, t) ∧
        Decodes SourcedHit.listShape SourcedHit.ofJson? reply hits ∧
        ∀ source, IsRankingOf source hits (c.of source) := by
  rw [run_candidates]
  constructor
  · intro h
    split at h
    · next hname =>
      rcases hpost : (client.post (engine.requestFor .inCore r)).run s with ⟨fault | reply, t'⟩
      · rw [hpost] at h
        cases h
      · rw [hpost, Prod.map_apply', Prod.mk.injEq, mapError_eq_ok_iff] at h
        obtain ⟨hresult, rfl⟩ := h
        obtain ⟨hits, hdecodes, hc⟩ := resultOf_rankings?_eq_ok_iff.1 hresult
        exact ⟨hname, reply, hits, rfl, hdecodes, eq_ofRows_iff.1 hc⟩
    · cases h
  · rintro ⟨hname, reply, hits, hpost, hdecodes, hrankings⟩
    have hresult : resultOf SourcedHit.listShape rankings? reply = .ok c :=
      resultOf_rankings?_eq_ok_iff.2 ⟨hits, hdecodes, eq_ofRows_iff.2 hrankings⟩
    rw [if_pos hname, hpost, Prod.map_apply', outcomeOf, hresult]
    rfl

end Engine

end Rpc

/-- Where rankings are fused here, nothing of an engine counts but its candidates. -/
theorem search_congr_of_candidates {m : Type → Type} [Monad m] {policy : Policy}
    (hmode : policy.fusion = .inCore) {q q' : QueryEngine m}
    (h : ∀ r, q'.candidates r = q.candidates r) (e : Embedder m) (r : SearchRequest) :
    search policy e q' r = search policy e q r := by
  have hrun : ∀ r, q'.run policy.fusion r = q.run policy.fusion r := by
    intro r
    rw [hmode]
    unfold QueryEngine.run
    dsimp only
    rw [h r]
  unfold search
  simp only [hrun]

/-- Let two clients bring the candidates of an engine with the same rows, those of one source and
one rank in the same order. Then the engine's candidates are the same over both, namely the ranking
of each source, as are the searches that fuse them. Rows may be so reordered wherever those of each
source stay in order, and in any way at all if no two of one source have the same rank. -/
theorem search_ignores_row_order {σ : Type} {client client' : Client (StateM σ)}
    {engine : Rpc.Engine} (h : engine.SameCandidates client client') :
    (∀ r, (engine.queryEngine client').candidates r = (engine.queryEngine client).candidates r) ∧
    (∀ r s c t, ((engine.queryEngine client).candidates r).run s = (.ok c, t) ↔
      Rpc.isFunctionName engine.candidatesFunction = true ∧
      ∃ reply hits, (client.post (engine.requestFor .inCore r)).run s = (.ok reply, t) ∧
        Rpc.Decodes SourcedHit.listShape SourcedHit.ofJson? reply hits ∧
        ∀ source, IsRankingOf source hits (c.of source)) ∧
    (∀ (policy : Policy) (e : Embedder (StateM σ)) (r : SearchRequest), policy.fusion = .inCore →
      search policy e (engine.queryEngine client') r =
        search policy e (engine.queryEngine client) r) ∧
    ∀ rows rows' : List Json, rows'.Perm rows →
      (∀ source, rows'.filter (fun row => (placeOf? row).map Prod.fst = some source) =
        rows.filter fun row => (placeOf? row).map Prod.fst = some source) ∨
      (rows.filterMap placeOf?).Nodup → Reordered rows rows' := by
  refine ⟨h.candidates_eq, fun _ _ _ _ => Rpc.Engine.run_candidates_eq_ok_iff, ?_, ?_⟩
  · intro policy e r hmode
    exact search_congr_of_candidates hmode h.candidates_eq e r
  · intro rows rows' hperm hrows
    rcases hrows with hsources | hplaces
    · exact .of_interleaved hperm hsources
    · exact .of_distinct hperm hplaces

/-- A client that answers every request with one text. -/
def answering (text : String) : Client (StateM Unit) := ⟨fun _ _ => return .ok ⟨⟨200⟩, text⟩⟩

/-- What comes of a request to such a client. -/
theorem run_post_answering (text : String) {r : Wire.Request} {url : Wire.Url}
    (htarget : r.target = .ok url) :
    ((answering text).post r).run () = (.ok ⟨⟨200⟩, text⟩, ()) := by
  unfold Client.post
  rw [htarget]
  rfl

/-- A row for a document without content. -/
def bareRow (id : Int) (source : String) (rank : Int) : Json :=
  .array [.int id, .null, .null, .null, .string source, .int rank, .null]

/-- Rows of both sources, of which two tie. -/
def tiedRows : String :=
  "[[1,null,null,null,\"keyword\",2,null],[2,null,null,null,\"keyword\",2,null]," ++
    "[3,null,null,null,\"semantic\",1,null]]"

/-- The rows of `tiedRows`, with those that do not tie elsewhere. -/
def tiedRowsReordered : String :=
  "[[3,null,null,null,\"semantic\",1,null],[1,null,null,null,\"keyword\",2,null]," ++
    "[2,null,null,null,\"keyword\",2,null]]"

set_option maxRecDepth 2000 in
/-- What `tiedRows` holds. -/
theorem read_tiedRows :
    Json.read? SourcedHit.listShape (.ofText tiedRows) =
      some (.array [bareRow 1 "keyword" 2, bareRow 2 "keyword" 2, bareRow 3 "semantic" 1]) := by
  cbv

set_option maxRecDepth 2000 in
/-- What `tiedRowsReordered` holds. -/
theorem read_tiedRowsReordered :
    Json.read? SourcedHit.listShape (.ofText tiedRowsReordered) =
      some (.array [bareRow 3 "semantic" 1, bareRow 1 "keyword" 2, bareRow 2 "keyword" 2]) := by
  cbv

/-- Over both texts, an engine has the same candidates. -/
theorem sameCandidates_tiedRows (engine : Rpc.Engine) :
    engine.SameCandidates (answering tiedRows) (answering tiedRowsReordered) := by
  intro r s
  cases htarget : (engine.requestFor .inCore r).target with
  | error fault =>
    unfold Client.post
    rw [htarget]
    exact ⟨.same _, rfl⟩
  | ok url =>
    rw [run_post_answering _ htarget, run_post_answering _ htarget]
    refine ⟨.rows ⟨rfl, rfl, _, _, read_tiedRows, read_tiedRowsReordered, ?_⟩, rfl⟩
    refine .of_interleaved (@List.perm_append_comm _ [_] [_, _]) fun source => ?_
    cases source <;> rfl

/-- A hit for a document without content. -/
def bareHit (id : Int) (rank : UInt32) : Hit := ⟨⟨.int id, none, .null, none⟩, rank, none⟩

/-- The rows of `tiedRows`, decoded. -/
def tiedHits : List SourcedHit :=
  [⟨.keyword, bareHit 1 2⟩, ⟨.keyword, bareHit 2 2⟩, ⟨.semantic, bareHit 3 1⟩]

/-- An embedder that brings one vector for every query. -/
def steadyEmbedder : Embedder (StateM Unit) := ⟨2, fun _ => return .ok [0.5, 1]⟩

/-- A request for candidates. -/
def candidatesRequest : EngineRequest := ⟨"pricing", [0.5, 1], 10, .object [], 1, 1, 50, .cosine⟩

/-- Over both texts, the keyword ranking has the tied hits in the order of the first one. -/
theorem search_ignores_row_order_tied :
    ∃ c, ((smallDatabase.queryEngine (answering tiedRowsReordered)).candidates
        candidatesRequest).run () = (.ok c, ()) ∧
      c.keyword.filter (·.rank = 2) = [bareHit 1 2, bareHit 2 2] ∧
      search ⟨10, 100, false, .inCore⟩ steadyEmbedder
          (smallDatabase.queryEngine (answering tiedRowsReordered)) pricingRequest =
        search ⟨10, 100, false, .inCore⟩ steadyEmbedder
          (smallDatabase.queryEngine (answering tiedRows)) pricingRequest := by
  obtain ⟨hcandidates, hiff, hsearch, -⟩ :=
    search_ignores_row_order (sameCandidates_tiedRows smallDatabase)
  have htarget : (smallDatabase.requestFor .inCore candidatesRequest).target.isOk = true := by
    decide +kernel
  cases hurl : (smallDatabase.requestFor .inCore candidatesRequest).target with
  | error fault =>
    rw [hurl] at htarget
    cases htarget
  | ok url =>
    have hdecodes : Rpc.Decodes SourcedHit.listShape SourcedHit.ofJson? ⟨⟨200⟩, tiedRows⟩
        tiedHits :=
      ⟨rfl, _, read_tiedRows, .cons rfl (.cons rfl (.cons rfl .nil))⟩
    have hc := (hiff candidatesRequest () (.ofRows tiedHits) ()).2
      ⟨rfl, _, _, run_post_answering _ hurl, hdecodes, eq_ofRows_iff.1 rfl⟩
    refine ⟨.ofRows tiedHits, ?_, (isRankingOf_hitsOf .keyword tiedHits).ties 2,
      hsearch _ _ _ rfl⟩
    rw [hcandidates]
    exact hc

end SearchGateway
