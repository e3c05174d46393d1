import SearchGateway.Proofs.Search.Validation
import SearchGateway.Proofs.Server.Responses

/-!
# What a response tells of a failure

A collaborator's failure travels from the step at which it arose to the body of a response. Unless
details are exposed, nothing of it arrives: the response is the same for every failure, whatever the
request was (`FailsFor.response_eq_of_redacting`). Exposed, the response has the words of the
failure, the step and both forms of the filter (`FailsFor.fields_of_exposing`). On any outcome that
is no fault of the server it makes no difference whether details are exposed (`handle_exposing`).
-/

namespace SearchGateway.Server

/-! ## Problems -/

/-- The failure of a collaborator is a problem on the server's side. -/
theorem isServerError_searchFailed (details : String) :
    (Problem.searchFailed details).status.isServerError = true := by
  change (Wire.Status.mk 500).isServerError = true
  decide

/-- Redacted, the failure of a collaborator is the same problem whatever failed. -/
theorem redacted_collaborator (stage : Stage) (text : String) (filters : FilterForms) :
    (Problem.ofFailure (.collaborator stage text filters)).redacted false =
      Problem.plain 500 .queryEngineFailure "Search failed" := by
  unfold Problem.redacted
  rw [if_pos (by rw [Problem.ofFailure, isServerError_searchFailed]; rfl)]
  rfl

/-- A problem that is to be shown is left as it is. -/
theorem redacted_true (p : Problem) : p.redacted true = p := by
  simp [Problem.redacted]

/-- A problem that is not on the server's side is left as it is. -/
theorem redacted_of_not_isServerError {p : Problem} (h : p.status.isServerError = false)
    (expose : Bool) : p.redacted expose = p := by
  simp [Problem.redacted, h]

/-- How a search ended is told with one status, exposed or not, and in the same words where it is no
fault on the server's side. -/
theorem ofSearch_exposing (ended : Option (Except Failure Answer)) :
    (Response.ofSearch true ended).status = (Response.ofSearch false ended).status ∧
      ((Wire.Status.mk (Response.ofSearch false ended).status).isServerError = false →
        Response.ofSearch true ended = Response.ofSearch false ended) := by
  match ended with
  | none => exact ⟨rfl, fun _ => rfl⟩
  | some (.ok a) => exact ⟨rfl, fun _ => rfl⟩
  | some (.error f) =>
    change (Problem.redacted true _).status.code = (Problem.redacted false _).status.code ∧
      ((Problem.redacted false _).status.isServerError = false → Response.problem _ = .problem _)
    simp only [Problem.status_redacted, true_and]
    intro h
    rw [redacted_of_not_isServerError h, redacted_of_not_isServerError h]

/-! ## Responses -/

section
variable {σ : Type} {settings : Settings} {e : Embedder (OptionT (StateM σ))}
  {q : QueryEngine (OptionT (StateM σ))} {server : Server (StateM σ)} {x : Request}
  {s : σ} {raw : Json} {stage : Stage} {f : Failure}

/-- A request posts a search with a raw filter, the search passes validation, and then a
collaborator fails. -/
def FailsFor (settings : Settings) (e : Embedder (OptionT (StateM σ)))
    (q : QueryEngine (OptionT (StateM σ))) (x : Request) (s : σ) (raw : Json) (stage : Stage)
    (f : Failure) : Prop :=
  ∃ b p, x.Posts b ∧ b.toRequest.filter = raw ∧ settings.policy.accept b.toRequest = .ok p ∧
    FailsAt e q settings.policy.fusion p s stage f

/-- The response to a posted search that a collaborator failed. -/
theorem FailsFor.response_eq (hserver : ofCollaborators settings e q = .ok server)
    (h : FailsFor settings e q x s raw stage f) :
    ((server.handle x).run s).1 =
      Response.sentTo server.origins x
        (.problem ((Problem.ofFailure (f.during stage (.of raw))).redacted
          settings.application.exposeErrorDetails)) := by
  obtain ⟨b, p, hx, rfl, haccept, hfails⟩ := h
  obtain ⟨-, hexpose, hanswer⟩ := ofCollaborators_eq_ok hserver
  obtain ⟨t, hconsult⟩ := hfails.consult_eq
  rw [handle_of_request server hx.toIsSearch hx.requestOf_eq, StateT.run_map, hanswer, hexpose,
    run_search_of_consult haccept hconsult, ← filters_of_accept haccept]
  rfl

/-- A request that posts no search is answered without a look at whether details are exposed. -/
theorem handle_exposing_of_not_isSearch {m : Type → Type} [Monad m] (server : Server m)
    (h : ¬ x.IsSearch) (expose expose' : Bool) :
    { server with exposeErrorDetails := expose }.handle x =
      { server with exposeErrorDetails := expose' }.handle x := by
  -- only the answer to a posted search looks at the flag, and this request never gets there
  have hserved : Route.ofPath (pathOf x.target) = .search → x.method ≠ .post := by
    intro hroute hmethod
    have hpath : ¬ (pathOf x.target = "/search" ∨ pathOf x.target = "/") :=
      fun hpath => h ⟨hmethod, hpath⟩
    rw [Route.ofPath, if_neg hpath] at hroute
    split at hroute <;> cases hroute
  have hserve : { server with exposeErrorDetails := expose }.serve
        (Route.ofPath (pathOf x.target)) x =
      { server with exposeErrorDetails := expose' }.serve (Route.ofPath (pathOf x.target)) x := by
    unfold serve
    split
    · next hsearch hpost => exact absurd hpost (hserved hsearch)
    all_goals rfl
  unfold handle
  dsimp only
  rw [hserve]

/-- Whether details are exposed makes no difference to the collaborators nor to the status, and none
at all where that is no fault on the server's side. -/
theorem handle_exposing (server : Server (StateM σ)) (x : Request) (s : σ) :
    ∃ exposed redacted t,
      ({ server with exposeErrorDetails := true }.handle x).run s = (exposed, t) ∧
      ({ server with exposeErrorDetails := false }.handle x).run s = (redacted, t) ∧
      exposed.status = redacted.status ∧
      ((Wire.Status.mk redacted.status).isServerError = false → exposed = redacted) := by
  by_cases hsearch : x.IsSearch
  · cases hbody : requestOf x.body with
    | error problem =>
      rw [handle_of_problem _ hsearch hbody, handle_of_problem _ hsearch hbody]
      exact ⟨_, _, _, rfl, rfl, rfl, fun _ => rfl⟩
    | ok r =>
      rw [handle_of_request _ hsearch hbody, handle_of_request _ hsearch hbody]
      obtain ⟨hstatus, hsame⟩ := ofSearch_exposing ((server.answer r).run.run s).1
      exact ⟨_, _, _, rfl, rfl, hstatus,
        fun h => congrArg (Response.sentTo server.origins x) (hsame h)⟩
  · rw [handle_exposing_of_not_isSearch server hsearch true false]
    exact ⟨_, _, _, rfl, rfl, rfl, fun _ => rfl⟩

/-- Redacted, the response to a search that a collaborator failed is one for all that are sent to an
origin. -/
theorem FailsFor.response_eq_of_redacting (hserver : ofCollaborators settings e q = .ok server)
    (hexpose : settings.application.exposeErrorDetails = false)
    (h : FailsFor settings e q x s raw stage f) :
    ((server.handle x).run s).1 =
      Response.sentTo server.origins x
        (.problem (.plain 500 .queryEngineFailure "Search failed")) := by
  obtain ⟨stage', text, filters, hduring, -⟩ := f.exists_during stage (.of raw)
  rw [h.response_eq hserver, hexpose, hduring, redacted_collaborator]

/-- Exposed, the response to a search that a collaborator failed tells the words of the failure, the
step and the filters. -/
theorem FailsFor.fields_of_exposing (hserver : ofCollaborators settings e q = .ok server)
    (hexpose : settings.application.exposeErrorDetails = true)
    (h : FailsFor settings e q x s raw stage f) {stage' : Stage} {text : String}
    {filters : FilterForms}
    (hduring : f.during stage (.of raw) = .collaborator stage' text filters) :
    ((server.handle x).run s).1.field? "details" = some (.string text) ∧
      ((server.handle x).run s).1.field? "debug_info" =
        some (.object
          [("original_filter", filters.raw), ("stage", .string stage'.name),
            ("transformed_filter", filters.normal)]) := by
  rw [h.response_eq hserver, hexpose, hduring, redacted_true]
  exact ⟨Problem.get?_details _, Problem.get?_debugInfo _⟩

end

/-- Two servers have the same settings and any collaborators. Where details are not exposed, any two
searches that pass validation and are failed by a collaborator, each at any step with any failure,
get one response if they come from one origin, and it has neither details nor circumstances.
Exposed, the details are the message of the failure, and the circumstances are the step, the raw
filter and its normal form, unless the failure has been told with others before. And for all
requests, exposing details changes neither what is asked of the collaborators nor the status of the
response; where this is no fault of the server, it changes nothing. -/
theorem handle_redacts_failures {σ τ : Type} {settings : Settings}
    {e : Embedder (OptionT (StateM σ))} {q : QueryEngine (OptionT (StateM σ))}
    {e' : Embedder (OptionT (StateM τ))} {q' : QueryEngine (OptionT (StateM τ))}
    {server : Server (StateM σ)} {server' : Server (StateM τ)}
    (hserver : ofCollaborators settings e q = .ok server)
    (hserver' : ofCollaborators settings e' q' = .ok server') :
    (settings.application.exposeErrorDetails = false →
      ∀ {x s raw stage f x' s' raw' stage' f'}, FailsFor settings e q x s raw stage f →
        FailsFor settings e' q' x' s' raw' stage' f' → x.origin = x'.origin →
        ∃ response, ((server.handle x).run s).1 = response ∧
          ((server'.handle x').run s').1 = response ∧
          response.field? "details" = none ∧ response.field? "debug_info" = none) ∧
    (settings.application.exposeErrorDetails = true →
      ∀ {x s raw stage f}, FailsFor settings e q x s raw stage f →
        ∃ response told text filters, ((server.handle x).run s).1 = response ∧
          f.during stage (.of raw) = .collaborator told text filters ∧
          (f.IsUntold → told = stage ∧ text = f.message ∧ filters = .of raw) ∧
          response.field? "details" = some (.string text) ∧
          response.field? "debug_info" =
            some (.object
              [("original_filter", filters.raw), ("stage", .string told.name),
                ("transformed_filter", filters.normal)])) ∧
    ∀ x s, ∃ exposed redacted t,
      ({ server with exposeErrorDetails := true }.handle x).run s = (exposed, t) ∧
      ({ server with exposeErrorDetails := false }.handle x).run s = (redacted, t) ∧
      exposed.status = redacted.status ∧
      ((Wire.Status.mk redacted.status).isServerError = false → exposed = redacted) := by
  refine ⟨fun hexpose x s raw stage f x' s' raw' stage' f' h h' horigin => ?_,
    fun hexpose x s raw stage f h => ?_, handle_exposing server⟩
  · have horigins : server'.origins = server.origins := by
      obtain ⟨hlist, -⟩ := ofCollaborators_eq_ok hserver
      obtain ⟨hlist', -⟩ := ofCollaborators_eq_ok hserver'
      exact Option.some.inj (hlist'.symm.trans hlist)
    refine ⟨_, h.response_eq_of_redacting hserver hexpose, ?_, rfl, rfl⟩
    rw [h'.response_eq_of_redacting hserver' hexpose, horigins, Response.sentTo, ← horigin]
    rfl
  · obtain ⟨told, text, filters, hduring, huntold⟩ := f.exists_during stage (.of raw)
    obtain ⟨hdetails, hdebug⟩ := h.fields_of_exposing hserver hexpose hduring
    exact ⟨_, told, text, filters, rfl, hduring, huntold, hdetails, hdebug⟩

/-- An embedder that fails with a secret. -/
def refusedEmbedder : Embedder (OptionT (StateM Canned.Calls)) :=
  (Canned.embedder ⟨2, .error "bad key: 17", []⟩).lift

/-- A query engine that fails with a secret. -/
def brokenEngine : QueryEngine (OptionT (StateM Canned.Calls)) :=
  (Canned.engine ⟨[], ⟨[], []⟩, some "no table: secrets"⟩).lift

/-- Of two searches the first one fails with a secret in the embedding and the second one with
another in the query engine. The responses are the same, and without details; exposed, the first one
tells its secret. -/
theorem handle_redacts_failures_twoSecrets :
    ∃ server server' exposing response b,
      ofCollaborators (smallSettings false) refusedEmbedder brokenEngine = .ok server ∧
      ofCollaborators (smallSettings false) constantEmbedder brokenEngine = .ok server' ∧
      ofCollaborators (smallSettings true) refusedEmbedder brokenEngine = .ok exposing ∧
      ((server.handle (searchWith "/search" objectBody)).run .none).1 = response ∧
      ((server'.handle (searchWith "/" arrayBody)).run .none).1 = response ∧
      response.field? "details" = none ∧ response.field? "debug_info" = none ∧
      RequestBody.read (.ofText objectBody) = .ok b ∧
      ((exposing.handle (searchWith "/search" objectBody)).run .none).1.field? "details" =
        some (.string "Embedding generation failed: bad key: 17") ∧
      ((exposing.handle (searchWith "/search" objectBody)).run .none).1.field? "debug_info" =
        some (.object
          [("original_filter", b.toRequest.filter), ("stage", .string "embedding"),
            ("transformed_filter", Filter.normalForm b.toRequest.filter)]) := by
  have hserver : ofCollaborators (smallSettings false) refusedEmbedder brokenEngine = .ok _ := rfl
  have hserver' : ofCollaborators (smallSettings false) constantEmbedder brokenEngine = .ok _ := rfl
  have hexposing : ofCollaborators (smallSettings true) refusedEmbedder brokenEngine = .ok _ := rfl
  obtain ⟨b, p, hread, haccept⟩ := exists_accept_of_passes
    (show passes (smallSettings false).policy (.ofText objectBody) = true by decide +kernel)
  obtain ⟨b', p', hread', haccept'⟩ := exists_accept_of_passes
    (show passes (smallSettings false).policy (.ofText arrayBody) = true by decide +kernel)
  have hposts : (searchWith "/search" objectBody).Posts b :=
    ⟨⟨rfl, by decide +kernel⟩, by decide +kernel, hread⟩
  have hposts' : (searchWith "/" arrayBody).Posts b' :=
    ⟨⟨rfl, by decide +kernel⟩, by decide +kernel, hread'⟩
  have hfails : FailsFor (smallSettings false) refusedEmbedder brokenEngine
      (searchWith "/search" objectBody) .none b.toRequest.filter .embedding
      (.embedding "bad key: 17") :=
    ⟨b, p, hposts, rfl, haccept, .embedder rfl⟩
  have hfails' : FailsFor (smallSettings false) constantEmbedder brokenEngine
      (searchWith "/" arrayBody) .none b'.toRequest.filter .queryEngine
      (.queryEngine "no table: secrets") :=
    ⟨b', p', hposts', rfl, haccept', .engine rfl rfl rfl⟩
  obtain ⟨hredacts, -⟩ := handle_redacts_failures hserver hserver'
  obtain ⟨response, hfirst, hsecond, hdetails, hdebug⟩ := hredacts rfl hfails hfails' rfl
  obtain ⟨-, hexposes, -⟩ := handle_redacts_failures hexposing hexposing
  obtain ⟨_, told, text, filters, rfl, -, huntold, htext, hcircumstances⟩ := hexposes rfl hfails
  obtain ⟨rfl, rfl, rfl⟩ := huntold nofun
  exact ⟨_, _, _, response, b, hserver, hserver', hexposing, hfirst, hsecond, hdetails, hdebug,
    hread, htext, hcircumstances⟩

end SearchGateway.Server
