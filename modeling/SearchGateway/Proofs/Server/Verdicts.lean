import Mathlib
import SearchGateway.Proofs.Search.Echo
import SearchGateway.Proofs.Server.Responses

/-!
# The rule that decides a response

Six rules are tried on the body of a posted search, one after the other, and the first one that
applies decides the response (`Decides`). A rule says what has to be true of the body alone, or of
the collaborators, whatever the other rules say (`Applies`); the code in the response tells which of
them it was (`handle_tells_first_rule`).
-/

namespace SearchGateway

/-- Nothing is left of a text exactly if all of it is blank. -/
theorem Text.isEmpty_trimmed_iff {s : String} :
    (trimmed s).isEmpty = true ↔ ∀ c ∈ s.toList, isBlank c = true := by
  rw [trimmed, String.isEmpty_iff, String.ofList_eq_empty_iff]
  refine (List.rdropWhile_eq_nil_iff ..).trans ⟨fun h c hc => ?_, fun h c hc => ?_⟩
  · rw [← List.takeWhile_append_dropWhile (p := isBlank) (l := s.toList), List.mem_append] at hc
    exact hc.elim List.mem_takeWhile_imp (h c)
  · exact h c ((List.dropWhile_suffix isBlank).mem hc)

/-- A name is that of a method exactly if it is one of three. -/
theorem DistanceMethod.ofName?_eq_none_iff {name : String} :
    ofName? name = none ↔ name ∉ ["cosine", "euclidean", "inner_product"] := by
  rw [ofName?, List.find?_eq_none]
  change (∀ m ∈ all, ¬ (m.name == name) = true) ↔ name ∉ all.map DistanceMethod.name
  simp only [beq_iff_eq, List.mem_map, not_exists, not_and]

/-- A policy refuses a filter: it cannot be read, or its values have to fit and do not. -/
inductive Policy.Refuses (policy : Policy) (v : Json) : Prop where
  | unreadable {d : Filter.Defect} (h : Filter.Expression.ofJson v = .error d)
  | misfit {x : Filter.Expression} {d : Filter.Defect} (hstrict : policy.strictFilterValues = true)
      (hread : Filter.Expression.ofJson v = .ok (some x)) (h : x.checkValues = .error d)

/-- The filters that do not pass are those that are refused. -/
theorem exists_checkFilter_eq_error_iff {policy : Policy} {v : Json} :
    (∃ d, policy.checkFilter v = .error d) ↔ policy.Refuses v := by
  simp only [checkFilter_eq_error_iff]
  constructor
  · rintro ⟨d, hread | ⟨hstrict, x, hread, h⟩⟩
    · exact .unreadable hread
    · exact .misfit hstrict hread h
  · rintro (hread | ⟨hstrict, hread, h⟩)
    · exact ⟨_, .inl hread⟩
    · exact ⟨_, .inr ⟨hstrict, _, hread, h⟩⟩

namespace Server

/-! ## What a body asks for -/

namespace RequestBody

/-- The body has no query, or one of nothing but blanks. -/
def LacksQuery (b : RequestBody) : Prop :=
  ∀ query, b.query = some query → ∀ c ∈ query.toList, Text.isBlank c = true

/-- The body names a distance method that there is not. -/
def NamesUnknownMethod (b : RequestBody) : Prop :=
  ∃ name, b.distanceMethod = some name ∧ name ∉ ["cosine", "euclidean", "inner_product"]

/-- The query of the request is blank where the body lacks one. -/
theorem isEmpty_trimmed_toRequest_iff {b : RequestBody} :
    (Text.trimmed b.toRequest.query).isEmpty = true ↔ b.LacksQuery := by
  change (Text.trimmed (b.query.getD "")).isEmpty = true ↔ _
  rw [Text.isEmpty_trimmed_iff, LacksQuery]
  cases b.query with
  | none => simp
  | some query => simp

/-- The distance method of the request is unknown where the body names it. -/
theorem ofName?_toRequest_eq_none_iff {b : RequestBody} :
    DistanceMethod.ofName? b.toRequest.distanceMethod = none ↔ b.NamesUnknownMethod := by
  change DistanceMethod.ofName? (b.distanceMethod.getD DistanceMethod.cosine.name) = none ↔ _
  rw [NamesUnknownMethod]
  cases b.distanceMethod with
  | none => simp [DistanceMethod.ofName?_name]
  | some name => simp [DistanceMethod.ofName?_eq_none_iff]

end RequestBody

/-! ## Verdicts -/

/-- What a posted search comes to, in the order in which the rules for it are tried. -/
inductive Verdict where
  | undecodable
  | missingQuery
  | unknownMethod
  | invalidFilter
  | failed
  | answered
  deriving DecidableEq, Repr

namespace Verdict

/-- The status of the response. -/
def status : Verdict → Nat
  | undecodable | missingQuery | unknownMethod | invalidFilter => 400
  | failed => 500
  | answered => 200

/-- The code in the response; an answer has none. -/
def code? : Verdict → Option String
  | undecodable => some "INVALID_REQUEST_BODY"
  | missingQuery => some "MISSING_QUERY"
  | unknownMethod => some "INVALID_DISTANCE_METHOD"
  | invalidFilter => some "INVALID_FILTER"
  | failed => some "QUERY_ENGINE_FAILURE"
  | answered => none

/-- The code tells the verdict. -/
theorem eq_of_code? {v w : Verdict} (h : v.code? = w.code?) : v = w := by
  revert h
  cases v <;> cases w <;> decide

end Verdict

/-- A response tells a verdict, by its status and its code. -/
structure Response.Tells (response : Response) (v : Verdict) : Prop where
  status : response.status = v.status
  code : response.field? "code" = v.code?.map .string

/-- A response tells one verdict. -/
theorem Response.Tells.unique {response : Response} {v w : Verdict} (hv : response.Tells v)
    (hw : response.Tells w) : v = w := by
  have hcode : v.code?.map Json.string = w.code?.map Json.string := hv.code.symm.trans hw.code
  exact Verdict.eq_of_code? (Option.map_injective (fun _ _ => Json.string.inj) hcode)

/-- A problem tells the verdict that has its status and its code, redacted or not. -/
theorem tells_problem {problem : Problem} {v : Verdict} (expose : Bool)
    (hstatus : problem.status.code = v.status) (hcode : some problem.code.name = v.code?) :
    (Response.problem (problem.redacted expose)).Tells v where
  status := (congrArg Wire.Status.code (problem.status_redacted expose)).trans hstatus
  code := by
    rw [← hcode, ← problem.code_redacted expose]
    exact Problem.get?_code _

/-- Who may read a response is no part of the verdict. -/
theorem Response.Tells.sentTo {response : Response} {v : Verdict} (h : response.Tells v)
    (origins : Origins) (x : Request) : (Response.sentTo origins x response).Tells v :=
  ⟨h.status, h.code⟩

section
variable {σ : Type} (policy : Policy) (e : Embedder (OptionT (StateM σ)))
  (q : QueryEngine (OptionT (StateM σ))) (s : σ) (body : Bytes)

/-- The rule of a verdict applies to a body, with the collaborators in a state. -/
inductive Applies : Verdict → Prop where
  | undecodable {f : Json.Fault} (h : RequestBody.read body = .error f) : Applies .undecodable
  | missingQuery {b : RequestBody} (hread : RequestBody.read body = .ok b) (h : b.LacksQuery) :
    Applies .missingQuery
  | unknownMethod {b : RequestBody} (hread : RequestBody.read body = .ok b)
      (h : b.NamesUnknownMethod) : Applies .unknownMethod
  | invalidFilter {b : RequestBody} {v : Json} (hread : RequestBody.read body = .ok b)
      (hcounts : b.Counts v) (h : policy.Refuses v) : Applies .invalidFilter
  | failed {b : RequestBody} {p : Parameters} {stage : Stage} {f : Failure}
      (hread : RequestBody.read body = .ok b) (haccept : policy.accept b.toRequest = .ok p)
      (h : FailsAt e q policy.fusion p s stage f) : Applies .failed
  | answered : Applies .answered

/-- The rule of a verdict is the first one that applies. -/
structure Decides (v : Verdict) : Prop where
  applies : Applies policy e q s body v
  first : ∀ w, w.ctorIdx < v.ctorIdx → ¬ Applies policy e q s body w

end

section
variable {σ : Type} {policy : Policy} {e : Embedder (OptionT (StateM σ))}
  {q : QueryEngine (OptionT (StateM σ))} {s : σ} {body : Bytes} {b : RequestBody} {v w : Verdict}

/-- One rule decides. -/
theorem Decides.unique (hv : Decides policy e q s body v) (hw : Decides policy e q s body w) :
    v = w := by
  rcases Nat.lt_trichotomy v.ctorIdx w.ctorIdx with hlt | heq | hgt
  · exact absurd hv.applies (hw.first v hlt)
  · cases v <;> cases w <;> first | rfl | cases heq
  · exact absurd hw.applies (hv.first w hgt)

/-- A body that can be read is not undecodable. -/
theorem not_applies_undecodable (hread : RequestBody.read body = .ok b) :
    ¬ Applies policy e q s body .undecodable := by
  rintro ⟨h⟩
  rw [hread] at h
  cases h

/-- The rule on queries looks at the body. -/
theorem applies_missingQuery_iff (hread : RequestBody.read body = .ok b) :
    Applies policy e q s body .missingQuery ↔ b.LacksQuery := by
  refine ⟨?_, .missingQuery hread⟩
  rintro (_ | ⟨hread', h⟩)
  cases hread.symm.trans hread'
  exact h

/-- The rule on distance methods looks at the body. -/
theorem applies_unknownMethod_iff (hread : RequestBody.read body = .ok b) :
    Applies policy e q s body .unknownMethod ↔ b.NamesUnknownMethod := by
  refine ⟨?_, .unknownMethod hread⟩
  rintro (_ | _ | ⟨hread', h⟩)
  cases hread.symm.trans hread'
  exact h

/-- The rule on filters looks at the one that counts. -/
theorem applies_invalidFilter_iff (hread : RequestBody.read body = .ok b) :
    Applies policy e q s body .invalidFilter ↔ policy.Refuses b.toRequest.filter := by
  constructor
  · rintro (_ | _ | _ | ⟨hread', hcounts, h⟩)
    cases hread.symm.trans hread'
    rw [hcounts.filter_eq]
    exact h
  · intro h
    obtain ⟨v, hcounts⟩ := b.exists_counts
    rw [hcounts.filter_eq] at h
    exact .invalidFilter hread hcounts h

/-- The rule on collaborators looks at what they bring for the parameters. -/
theorem applies_failed_iff {p : Parameters} (hread : RequestBody.read body = .ok b)
    (haccept : policy.accept b.toRequest = .ok p) :
    Applies policy e q s body .failed ↔ ∃ stage f, FailsAt e q policy.fusion p s stage f := by
  constructor
  · rintro (_ | _ | _ | _ | ⟨hread', haccept', h⟩)
    cases hread.symm.trans hread'
    cases haccept.symm.trans haccept'
    exact ⟨_, _, h⟩
  · rintro ⟨stage, f, h⟩
    exact .failed hread haccept h

/-- The rule behind a refusal decides. -/
theorem exists_decides_of_refusedFor {f : Failure} (hread : RequestBody.read body = .ok b)
    (h : policy.RefusedFor b.toRequest f) :
    ∃ v, Decides policy e q s body v ∧ (Problem.ofFailure f).status.code = v.status ∧
      some (Problem.ofFailure f).code.name = v.code? ∧ v ≠ .answered := by
  have hundecodable : ¬ Applies policy e q s body .undecodable := not_applies_undecodable hread
  have hquery_iff : Applies policy e q s body .missingQuery ↔ _ :=
    (applies_missingQuery_iff hread).trans RequestBody.isEmpty_trimmed_toRequest_iff.symm
  have hmethod_iff : Applies policy e q s body .unknownMethod ↔ _ :=
    (applies_unknownMethod_iff hread).trans RequestBody.ofName?_toRequest_eq_none_iff.symm
  cases h with
  | query h =>
    refine ⟨.missingQuery, ⟨hquery_iff.2 h, fun w hlt => ?_⟩, rfl, rfl, nofun⟩
    cases w with
    | undecodable => exact hundecodable
    | _ => exact absurd hlt (by decide)
  | method hquery h =>
    refine ⟨.unknownMethod, ⟨hmethod_iff.2 h, fun w hlt => ?_⟩, rfl, rfl, nofun⟩
    cases w with
    | undecodable => exact hundecodable
    | missingQuery => simp [hquery_iff, hquery]
    | _ => exact absurd hlt (by decide)
  | filter hquery hmethod h =>
    refine ⟨.invalidFilter, ⟨?_, fun w hlt => ?_⟩, rfl, rfl, nofun⟩
    · exact (applies_invalidFilter_iff hread).2 (exists_checkFilter_eq_error_iff.1 ⟨_, h⟩)
    cases w with
    | undecodable => exact hundecodable
    | missingQuery => simp [hquery_iff, hquery]
    | unknownMethod => simp [hmethod_iff, hmethod]
    | _ => exact absurd hlt (by decide)

/-- No rule on the request itself applies where validation passes. -/
theorem not_applies_of_accept {p : Parameters} (hread : RequestBody.read body = .ok b)
    (haccept : policy.accept b.toRequest = .ok p) (hw : w.ctorIdx < Verdict.failed.ctorIdx) :
    ¬ Applies policy e q s body w := by
  obtain ⟨hquery, hcheck, method, hmethod, -⟩ := accept_eq_ok_iff.1 haccept
  cases w with
  | undecodable => exact not_applies_undecodable hread
  | missingQuery =>
    rw [applies_missingQuery_iff hread, ← RequestBody.isEmpty_trimmed_toRequest_iff, hquery]
    nofun
  | unknownMethod =>
    rw [applies_unknownMethod_iff hread, ← RequestBody.ofName?_toRequest_eq_none_iff, hmethod]
    nofun
  | invalidFilter =>
    rw [applies_invalidFilter_iff hread, ← exists_checkFilter_eq_error_iff, hcheck]
    nofun
  | failed | answered => exact absurd hw (by decide)

/-- Behind validation, the collaborators decide. -/
theorem decides_of_accept {p : Parameters} (hread : RequestBody.read body = .ok b)
    (haccept : policy.accept b.toRequest = .ok p) :
    ((∃ stage f, FailsAt e q policy.fusion p s stage f) → Decides policy e q s body .failed) ∧
      ((¬ ∃ stage f, FailsAt e q policy.fusion p s stage f) →
        Decides policy e q s body .answered) := by
  have hfailed_iff : Applies policy e q s body .failed ↔ _ := applies_failed_iff hread haccept
  constructor
  · intro h
    exact ⟨hfailed_iff.2 h, fun w hlt => not_applies_of_accept hread haccept hlt⟩
  · intro h
    refine ⟨.answered, fun w hlt => ?_⟩
    cases w with
    | failed => exact mt hfailed_iff.1 h
    | answered => exact absurd hlt (by decide)
    | _ => exact not_applies_of_accept hread haccept (by decide)

end

/-! ## Responses -/

section
variable {σ : Type} {settings : Settings} {e : Embedder (OptionT (StateM σ))}
  {q : QueryEngine (OptionT (StateM σ))} {server : Server (StateM σ)} {x : Request}

/-- The response to a body lists what the collaborators bring for its request. -/
def Response.Lists (response : Response) (policy : Policy) (e : Embedder (OptionT (StateM σ)))
    (q : QueryEngine (OptionT (StateM σ))) (s : σ) (body : Bytes) : Prop :=
  ∃ b p results t, RequestBody.read body = .ok b ∧ policy.accept b.toRequest = .ok p ∧
    (consult e q policy.fusion p).run.run s = (some (.ok results), t) ∧
    response.body = some (Answer.of results p policy.fusion).toJson

/-- The response to a posted search tells the verdict whose rule decides. -/
theorem exists_decides (hserver : ofCollaborators settings e q = .ok server) (he : e.Completes)
    (hq : q.Completes) (hx : x.IsSearch) (hlength : x.body.length ≤ bodyLimit) (s : σ) :
    ∃ response t v, (server.handle x).run s = (response, t) ∧
      Decides settings.policy e q s x.body v ∧ response.Tells v ∧
      (v = .answered → response.Lists settings.policy e q s x.body) := by
  obtain ⟨-, -, hanswer⟩ := ofCollaborators_eq_ok hserver
  cases hread : RequestBody.read x.body with
  | error f =>
    rw [handle_of_problem server hx (requestOf_of_unreadable hlength hread)]
    refine ⟨_, s, .undecodable, rfl, ⟨.undecodable hread, fun w hlt => ?_⟩, ⟨rfl, rfl⟩, nofun⟩
    exact absurd hlt (Nat.not_lt_zero _)
  | ok b =>
    have hposts : x.Posts b := ⟨hx, hlength, hread⟩
    rw [handle_of_request server hx hposts.requestOf_eq, StateT.run_map, hanswer]
    cases haccept : settings.policy.accept b.toRequest with
    | error f =>
      obtain ⟨v, hdecides, hstatus, hcode, hanswered⟩ :=
        exists_decides_of_refusedFor hread (accept_eq_error_iff.1 haccept)
      rw [search_of_refused haccept]
      have htells := tells_problem server.exposeErrorDetails hstatus hcode
      exact ⟨_, s, v, rfl, hdecides, htells.sentTo server.origins x, fun h => absurd h hanswered⟩
    | ok p =>
      obtain ⟨hfailed, hanswered⟩ := decides_of_accept (e := e) (q := q) (s := s) hread haccept
      -- no third case: a collaborator that broke off would be told as an internal problem
      rcases consult_completes he hq settings.policy.fusion p s with
        ⟨stage, f, hfails⟩ | ⟨results, t, hconsult⟩
      · obtain ⟨t, hconsult⟩ := hfails.consult_eq
        rw [run_search_of_consult haccept hconsult]
        refine ⟨_, t, .failed, rfl, hfailed ⟨stage, f, hfails⟩, ?_, nofun⟩
        obtain ⟨stage', text, filters, hduring, -⟩ := f.exists_during stage p.filters
        rw [Parameters.conclude, hduring]
        exact (tells_problem server.exposeErrorDetails rfl rfl).sentTo server.origins x
      · rw [run_search_of_consult haccept hconsult]
        refine ⟨_, t, .answered, rfl, hanswered ?_, ⟨rfl, rfl⟩, fun _ => ?_⟩
        · rintro ⟨stage, f, hfails⟩
          obtain ⟨u, hfailed⟩ := hfails.consult_eq
          cases hconsult.symm.trans hfailed
        · exact ⟨b, p, results, t, hread, haccept, hconsult, rfl⟩

end

/-! ## Remote collaborators -/

section
variable {σ : Type} (client : Wire.Client (StateM σ))

/-- A client that never breaks off brings something of a request. -/
theorem exists_run_post (r : Wire.Request) (s : σ) :
    ∃ outcome t, ((liftClient client).post r).run.run s = (some outcome, t) := by
  unfold Wire.Client.post
  cases r.target with
  | error f => exact ⟨_, s, rfl⟩
  | ok url => exact ⟨_, _, rfl⟩

/-- The embedding provider never breaks off unless its client does. -/
theorem completes_embedder (provider : EmbeddingProvider) :
    (provider.embedder (liftClient client)).Completes := by
  intro text s
  unfold EmbeddingProvider.embedder
  dsimp only
  split
  · exact ⟨_, s, rfl⟩
  · obtain ⟨outcome, t, hpost⟩ := exists_run_post client (provider.request text) s
    rw [run_bind_of_some hpost]
    cases outcome <;> exact ⟨_, t, rfl⟩

/-- A call never breaks off unless its client does. -/
theorem exists_run_call {α : Type} (c : Rpc.Credentials) (function : String) (parameters : Json)
    (shape : Shape) (decode : Json → Option α) (s : σ) :
    ∃ outcome t, (Rpc.call (liftClient client) c function parameters shape decode).run.run s =
      (some outcome, t) := by
  unfold Rpc.call
  split
  · exact ⟨_, s, rfl⟩
  · obtain ⟨outcome, t, hpost⟩ := exists_run_post client (c.request function parameters) s
    rw [run_bind_of_some hpost]
    cases outcome <;> exact ⟨_, t, rfl⟩

/-- The database never breaks off unless its client does. -/
theorem completes_queryEngine (engine : Rpc.Engine) :
    (engine.queryEngine (liftClient client)).Completes where
  hybridSearch r s := by
    obtain ⟨outcome, t, hcall⟩ := exists_run_call client engine.credentials engine.hybridFunction
      (Rpc.Engine.hybridParameters r) Match.listShape Rpc.Engine.matches? s
    exact ⟨_, t, run_bind_of_some hcall _⟩
  candidates r s := by
    obtain ⟨outcome, t, hcall⟩ := exists_run_call client engine.credentials
      engine.candidatesFunction (engine.candidatesParameters r) SourcedHit.listShape
      Rpc.Engine.rankings? s
    exact ⟨_, t, run_bind_of_some hcall _⟩

end

/-- Among collaborators that never break off, each posted body within the limit gets the response
of the first rule that applies to it, and of no other: a status and a code tell a verdict exactly if
its rule is the first one. An answer lists what the collaborators brought for the request of the
body. At both paths, a body gets the same response. -/
theorem handle_tells_first_rule {σ : Type} {settings : Settings}
    {e : Embedder (OptionT (StateM σ))} {q : QueryEngine (OptionT (StateM σ))}
    {server : Server (StateM σ)} {x : Request}
    (hserver : ofCollaborators settings e q = .ok server) (he : e.Completes) (hq : q.Completes)
    (hx : x.IsSearch) (hlength : x.body.length ≤ bodyLimit) (s : σ) :
    ∃ response t, (server.handle x).run s = (response, t) ∧
      (∃ v, Decides settings.policy e q s x.body v) ∧
      (∀ v, response.Tells v ↔ Decides settings.policy e q s x.body v) ∧
      (Decides settings.policy e q s x.body .answered →
        response.Lists settings.policy e q s x.body) ∧
      ∀ y : Request, y.IsSearch → y.body = x.body → y.origin = x.origin →
        server.handle y = server.handle x := by
  obtain ⟨response, t, v, hrun, hdecides, htells, hanswered⟩ :=
    exists_decides hserver he hq hx hlength s
  refine ⟨response, t, hrun, ⟨v, hdecides⟩, fun w => ⟨fun hw => ?_, fun hw => ?_⟩, fun hw => ?_,
    fun y hy hbody horigin => ?_⟩
  · rw [hw.unique htells]
    exact hdecides
  · rw [hw.unique hdecides]
    exact htells
  · exact hanswered (hdecides.unique hw)
  · rw [handle_of_isSearch server hy, handle_of_isSearch server hx, hbody]
    unfold Response.sentTo
    rw [horigin]

/-- A body with a blank query, a distance method that there is not and a filter that cannot be
read. -/
def threefoldBody : String :=
  "[\" \",\x7b\"filters\":[\x7b\x7d]\x7d,null,null,null,null,null,\"manhattan\"]"

/-- What `threefoldBody` holds. -/
theorem read_threefoldBody :
    RequestBody.read (.ofText threefoldBody) =
      .ok ⟨some " ", some (Filter.ofMembers [.object []]), none, none, none, none, none,
        some "manhattan"⟩ := by
  cbv

/-- In `smallNetwork`, a body against three rules is told the first of them, and another one is
answered. -/
theorem handle_tells_first_rule_threefold :
    ∃ server refusal answer t u b,
      ofCollaborators (smallSettings false) (smallProvider.embedder (liftClient Wire.scripted))
        (smallDatabase.queryEngine (liftClient Wire.scripted)) = .ok server ∧
      RequestBody.read (.ofText threefoldBody) = .ok b ∧ b.LacksQuery ∧ b.NamesUnknownMethod ∧
      (smallSettings false).policy.Refuses b.toRequest.filter ∧
      (server.handle (searchWith "/search" threefoldBody)).run smallNetwork = (refusal, t) ∧
      refusal.Tells .missingQuery ∧
      (server.handle (searchWith "/" objectBody)).run smallNetwork = (answer, u) ∧
      answer.Tells .answered := by
  have hserver : ofCollaborators (smallSettings false)
      (smallProvider.embedder (liftClient Wire.scripted))
      (smallDatabase.queryEngine (liftClient Wire.scripted)) = .ok _ := rfl
  have he := completes_embedder Wire.scripted smallProvider
  have hq := completes_queryEngine Wire.scripted smallDatabase
  have hread := read_threefoldBody
  have hlacks : RequestBody.LacksQuery ⟨some " ", some (Filter.ofMembers [.object []]), none, none,
      none, none, none, some "manhattan"⟩ := by
    rintro query ⟨⟩
    exact Text.isEmpty_trimmed_iff.1 (by decide +kernel)
  obtain ⟨refusal, t, hrefusal, -, htells, -⟩ :=
    handle_tells_first_rule (x := searchWith "/search" threefoldBody) hserver he hq
      ⟨rfl, by decide +kernel⟩ (by decide +kernel) smallNetwork
  obtain ⟨answer, u, hanswer, ⟨v, hdecides⟩, htold, -⟩ :=
    handle_tells_first_rule (x := searchWith "/" objectBody) hserver he hq
      ⟨rfl, by decide +kernel⟩ (by decide +kernel) smallNetwork
  refine ⟨_, refusal, answer, t, u, _, hserver, hread, hlacks,
    ⟨"manhattan", rfl, by decide⟩, .unreadable rfl, hrefusal,
    (htells .missingQuery).2 ⟨.missingQuery hread hlacks, fun w hlt => ?_⟩, hanswer, ?_⟩
  · cases w with
    | undecodable => exact not_applies_undecodable hread
    | _ => exact absurd hlt (by decide)
  · have hstatus : answer.status = 200 :=
      (congrArg (fun run => run.1.status) hanswer).symm.trans (by decide +kernel)
    have htells := (htold v).2 hdecides
    rw [htells.status] at hstatus
    cases v with
    | answered => exact htells
    | _ => cases hstatus

end Server

end SearchGateway
