import SearchGateway.Proofs.Search.Consultation
import SearchGateway.Search.Canned
import SearchGateway.Server.Startup

/-!
# Responses to posted searches

A search is posted to one of two paths (`Request.IsSearch`). The response is settled by the body and
by how the search ended (`handle_of_request`); who may read it is told in header fields, which
depend on the origin alone. The fields in the body of a problem are looked up here by key
(`Problem.get?_code` and the like), once for all problems.
-/

namespace SearchGateway.Server

/-- The value of a field in the body of a response. -/
def Response.field? (x : Response) (key : String) : Option Json := x.body.bind (·.get? key)

/-- A request posts a search, whatever its body is. -/
structure Request.IsSearch (x : Request) : Prop where
  method : x.method = .post
  path : pathOf x.target = "/search" ∨ pathOf x.target = "/"

/-- A request posts a search with a body that is within the limit and can be read. -/
structure Request.Posts (x : Request) (b : RequestBody) : Prop extends x.IsSearch where
  length : x.body.length ≤ bodyLimit
  read : RequestBody.read x.body = .ok b

/-! ## The filter of a body -/

namespace RequestBody

/-- The filter of a body that counts: the one in `filter` if it is set, else the one in
`metadata_filter`, else an empty object. -/
inductive Counts (b : RequestBody) : Json → Prop where
  | own {v : Json} (h : b.filter = some v) (hset : v.isSet = true) : Counts b v
  | metadata {v : Json} (hunset : ∀ w, b.filter = some w → w.isSet = false)
      (h : b.metadataFilter = some v) : Counts b v
  | neither (hunset : ∀ w, b.filter = some w → w.isSet = false) (h : b.metadataFilter = none) :
    Counts b (.object [])

/-- A filter that counts is the filter of the request. -/
theorem Counts.filter_eq {b : RequestBody} {v : Json} (h : b.Counts v) :
    b.toRequest.filter = v := by
  change (b.filter.filter Json.isSet).getD (b.metadataFilter.getD Filter.unrestricted) = v
  cases h with
  | own h hset =>
    rw [h, Option.filter_some_pos hset]
    rfl
  | metadata hunset h =>
    rw [Option.filter_eq_none_iff.2 (by simpa using hunset), h]
    rfl
  | neither hunset h =>
    rw [Option.filter_eq_none_iff.2 (by simpa using hunset), h]
    rfl

/-- Some filter counts. -/
theorem exists_counts (b : RequestBody) : ∃ v, b.Counts v := by
  by_cases hset : ∃ v, b.filter = some v ∧ v.isSet = true
  · obtain ⟨v, h, hset⟩ := hset
    exact ⟨v, .own h hset⟩
  · have hunset : ∀ w, b.filter = some w → w.isSet = false := by simpa using hset
    cases h : b.metadataFilter with
    | none => exact ⟨_, .neither hunset h⟩
    | some v => exact ⟨v, .metadata hunset h⟩

end RequestBody

/-! ## Problems -/

namespace Problem

/-- The other keys of a body are not those of a field that may be left out. -/
theorem lookup_fieldIfAny_append {key other : String} (h : key ≠ other) (value : Option Json)
    (rest : List (String × Json)) :
    (fieldIfAny other value ++ rest).lookup key = rest.lookup key := by
  cases value with
  | none => rfl
  | some v =>
    change List.lookup key ((other, v) :: rest) = _
    rw [List.lookup_cons, beq_false_of_ne h]

/-- A field that may be left out is found where it has a value. -/
theorem lookup_fieldIfAny_append_self {key : String} (value : Option Json)
    {rest : List (String × Json)} (h : rest.lookup key = none) :
    (fieldIfAny key value ++ rest).lookup key = value := by
  cases value with
  | none => exact h
  | some v =>
    change List.lookup key ((key, v) :: rest) = _
    rw [List.lookup_cons, beq_self_eq_true]

/-- Under any key but those of a problem's details, its body holds what its code and its message
say. -/
theorem get?_toJson {key : String} (hdebug : key ≠ "debug_info") (hdetails : key ≠ "details")
    (p : Problem) :
    p.toJson.get? key =
      ([("code", .string p.code.name), ("error", .string p.message)] :
        List (String × Json)).lookup key := by
  change List.lookup key
    (("code", Json.string p.code.name) :: (fieldIfAny _ _ ++ fieldIfAny _ _ ++ [_])) = _
  rw [List.append_assoc, List.lookup_cons, List.lookup_cons,
    lookup_fieldIfAny_append hdebug, lookup_fieldIfAny_append hdetails]

/-- The code of a problem is in its body. -/
theorem get?_code (p : Problem) : p.toJson.get? "code" = some (.string p.code.name) := rfl

/-- The details of a problem are in its body. -/
theorem get?_details (p : Problem) : p.toJson.get? "details" = p.details.map .string := by
  change List.lookup "details" (fieldIfAny _ _ ++ fieldIfAny _ _ ++ [_]) = _
  rw [List.append_assoc, lookup_fieldIfAny_append (by decide)]
  exact lookup_fieldIfAny_append_self _ rfl

/-- The circumstances of a problem are in its body. -/
theorem get?_debugInfo (p : Problem) :
    p.toJson.get? "debug_info" = p.circumstances.map circumstancesJson := by
  change List.lookup "debug_info" (fieldIfAny _ _ ++ fieldIfAny _ _ ++ [_]) = _
  rw [List.append_assoc]
  refine lookup_fieldIfAny_append_self _ ?_
  rw [lookup_fieldIfAny_append (by decide)]
  rfl

/-- Redaction leaves the status. -/
theorem status_redacted (expose : Bool) (p : Problem) : (p.redacted expose).status = p.status := by
  unfold redacted
  split <;> rfl

/-- Redaction leaves the code. -/
theorem code_redacted (expose : Bool) (p : Problem) : (p.redacted expose).code = p.code := by
  unfold redacted
  split <;> rfl

/-- Redaction leaves the message. -/
theorem message_redacted (expose : Bool) (p : Problem) :
    (p.redacted expose).message = p.message := by
  unfold redacted
  split <;> rfl

end Problem

/-! ## Posted searches -/

section
variable {m : Type → Type} [Monad m] {x : Request} {b : RequestBody}

/-- Where searches are posted, they are served. -/
theorem Request.IsSearch.route (h : x.IsSearch) : Route.ofPath (pathOf x.target) = .search :=
  if_pos h.path

/-- A body within the limit that can be read makes its request. -/
theorem Request.Posts.requestOf_eq (h : x.Posts b) : requestOf x.body = .ok b.toRequest := by
  unfold requestOf
  rw [if_neg (Nat.not_lt.2 h.length), h.read]

/-- Whether a body can be read as a search that passes validation. -/
def passes (policy : Policy) (body : Bytes) : Bool :=
  match RequestBody.read body with
  | .error _ => false
  | .ok b => (policy.accept b.toRequest).isOk

/-- A body that passes has parameters. -/
theorem exists_accept_of_passes {policy : Policy} {body : Bytes} (h : passes policy body = true) :
    ∃ b p, RequestBody.read body = .ok b ∧ policy.accept b.toRequest = .ok p := by
  unfold passes at h
  split at h
  · cases h
  · next b hread =>
    cases haccept : policy.accept b.toRequest with
    | error f =>
      rw [haccept] at h
      cases h
    | ok p => exact ⟨b, p, hread, haccept⟩

/-- A body within the limit that cannot be read is a problem. -/
theorem requestOf_of_unreadable {body : Bytes} {f : Json.Fault} (hlength : body.length ≤ bodyLimit)
    (h : RequestBody.read body = .error f) :
    requestOf body = .error (.invalidBody (f.message body)) := by
  unfold requestOf
  rw [if_neg (Nat.not_lt.2 hlength), h]

/-- A server has the origins, the policy and the collaborators that it was started with. -/
theorem ofCollaborators_eq_ok {settings : Settings} {e : Embedder (OptionT m)}
    {q : QueryEngine (OptionT m)} {server : Server m}
    (h : ofCollaborators settings e q = .ok server) :
    Origins.ofList? settings.application.allowedOrigins = some server.origins ∧
      server.exposeErrorDetails = settings.application.exposeErrorDetails ∧
      server.answer = search settings.policy e q := by
  unfold ofCollaborators at h
  cases horigins : Origins.ofList? settings.application.allowedOrigins with
  | none =>
    rw [horigins] at h
    cases h
  | some origins =>
    rw [horigins] at h
    cases h
    exact ⟨rfl, rfl, rfl⟩

/-- A response with the header fields that say whether the origin of a request may read it. -/
def Response.sentTo (origins : Origins) (x : Request) (response : Response) : Response :=
  response.withHeaders (origins.headers x.origin)

variable [LawfulMonad m]

/-- A posted search is answered by its body. -/
theorem handle_of_isSearch (server : Server m) (h : x.IsSearch) :
    server.handle x = Response.sentTo server.origins x <$> server.answerSearch x.body := by
  have hmethod : ¬ x.method = .options := by simp [h.method]
  have hserve : server.serve .search x = server.answerSearch x.body := by
    unfold serve
    rw [h.method]
  unfold handle
  dsimp only
  rw [h.route, if_neg hmethod, hserve, bind_pure_comp]
  rfl

/-- A posted search with a body that makes no request is answered with the problem. -/
theorem handle_of_problem (server : Server m) (h : x.IsSearch) {problem : Problem}
    (hproblem : requestOf x.body = .error problem) :
    server.handle x = pure (Response.sentTo server.origins x (.problem problem)) := by
  rw [handle_of_isSearch server h, answerSearch, hproblem]
  exact map_pure ..

/-- A posted search with a body that makes a request is answered by how the search ends. -/
theorem handle_of_request (server : Server m) (h : x.IsSearch) {r : SearchRequest}
    (hrequest : requestOf x.body = .ok r) :
    server.handle x =
      (fun ended =>
          Response.sentTo server.origins x (.ofSearch server.exposeErrorDetails ended)) <$>
        (server.answer r).run := by
  rw [handle_of_isSearch server h, answerSearch, hrequest]
  dsimp only
  rw [bind_pure_comp, Functor.map_map]

end

/-! ## Small searches -/

/-- Settings for embeddings of two components, which say whether details are exposed. -/
def smallSettings (expose : Bool) : Settings :=
  { application := ⟨8080, "::1", expose, []⟩
    embedding := ⟨"", "", "small", 2, 30⟩
    queryEngine := ⟨"", "", "fused", "ranked", .engine, 50, 30⟩
    search := ⟨10, 100, false⟩ }

/-- A search posted from a page. -/
def searchWith (target body : String) : Request :=
  ⟨.post, target, some "https://pages.example", .ofText body⟩

/-- The body of a search, as an object. -/
def objectBody : String := "\x7b\"query\":\"one\"\x7d"

/-- The body of another search, as the array of its fields. -/
def arrayBody : String :=
  "[\"two\",\x7b\"filter\":\x7b\"filters\":[]\x7d\x7d,null,5,1,0.5,60,\"euclidean\"]"

/-- An embedder that does not fail. -/
def constantEmbedder : Embedder (OptionT (StateM Canned.Calls)) :=
  (Canned.embedder ⟨2, .ok [0, 1], []⟩).lift

end SearchGateway.Server
