import SearchGateway.Proofs.Server.Responses

/-!
# Who may read a response

A page may read a response if the response grants its origin. What is granted is settled when the
server starts: by a list of origins (`Origins.MeantBy`), in which an empty list means all.

Nothing but the list matters. Of all header fields of a response, only those that are added last
speak of origins (`silent_of_serve`), so whether an origin is granted is read off the list
(`grants_of_handle_iff`). The list is not always read as it is meant, though: one that is left with
nothing, since no header field can carry its entries, grants every origin (`grants_as_meant_iff`).
-/

namespace SearchGateway.Server

/-- A response lets pages of an origin read it. -/
def Response.Grants (response : Response) (origin : String) : Prop :=
  ∃ granted, ("access-control-allow-origin", granted) ∈ response.headers ∧
    (granted = Origins.wildcard ∨ granted = origin)

/-- A response does not say who may read it. -/
def Response.Silent (response : Response) : Prop :=
  ∀ granted, ("access-control-allow-origin", granted) ∉ response.headers

/-- A list of origins is meant to allow an origin: it is empty, or it holds the origin or the
wildcard. -/
def Origins.MeantBy (listed : List String) (origin : String) : Prop :=
  listed = [] ∨ origin ∈ listed ∨ wildcard ∈ listed

/-- No entry of a list can be the value of a header field. -/
def Origins.Unwritable (listed : List String) : Prop :=
  ∀ entry ∈ listed, Wire.isHeaderValue entry = false

/-! ## Lists of origins -/

namespace Origins

section
variable {listed : List String} {allowed : Origins} {origin : String}

/-- Header fields can carry the wildcard. -/
theorem isHeaderValue_wildcard : Wire.isHeaderValue wildcard = true := by decide

/-- How a list is read: as all origins if none of its entries can be written, and else, unless the
wildcard is in it, as those that can. -/
theorem ofList?_cases (listed : List String) :
    (Unwritable listed ∧ ofList? listed = some all) ∨
      (¬ Unwritable listed ∧ wildcard ∈ listed ∧ ofList? listed = none) ∨
      (¬ Unwritable listed ∧ wildcard ∉ listed ∧
        ofList? listed = some (only (listed.filter Wire.isHeaderValue))) := by
  have hempty : listed.filter Wire.isHeaderValue = [] ↔ Unwritable listed := by
    simp [Unwritable]
  have hwildcard : (listed.filter Wire.isHeaderValue).contains wildcard = true ↔
      wildcard ∈ listed := by
    simp [isHeaderValue_wildcard]
  unfold ofList?
  rw [← hempty, ← hwildcard]
  split
  · next hvalid => exact .inl ⟨hvalid, rfl⟩
  · next hvalid =>
    split
    · next hlisted => exact .inr (.inl ⟨hvalid, hlisted, rfl⟩)
    · next hlisted => exact .inr (.inr ⟨hvalid, hlisted, rfl⟩)

/-- A list with no entry that can be written does not hold the wildcard. -/
theorem Unwritable.not_wildcard_mem (h : Unwritable listed) : wildcard ∉ listed := by
  intro hmem
  cases isHeaderValue_wildcard.symm.trans (h _ hmem)

/-- A list cannot be read if the wildcard is in it. -/
theorem ofList?_eq_none_iff : ofList? listed = none ↔ wildcard ∈ listed := by
  rcases ofList?_cases listed with ⟨h, hread⟩ | ⟨-, hmem, hread⟩ | ⟨-, hmem, hread⟩
  · simp [hread, h.not_wildcard_mem]
  · simp [hread, hmem]
  · simp [hread, hmem]

/-- A list that is read grants the origins that it holds, or all if no entry can be written. -/
theorem grant?_of_ofList? (h : ofList? listed = some allowed)
    (hvalue : Wire.isHeaderValue origin = true) :
    (∃ granted, allowed.grant? (some origin) = some granted ∧
      (granted = wildcard ∨ granted = origin)) ↔ origin ∈ listed ∨ Unwritable listed := by
  rcases ofList?_cases listed with ⟨hall, hread⟩ | ⟨-, -, hread⟩ | ⟨hsome, -, hread⟩
  · cases hread.symm.trans h
    exact iff_of_true ⟨_, grant?_all _, .inl rfl⟩ (.inr hall)
  · cases hread.symm.trans h
  · cases hread.symm.trans h
    simp only [grant?_only, List.mem_filter, hvalue, and_true, hsome, or_false]
    constructor
    · rintro ⟨granted, ⟨-, hmem⟩, -⟩
      exact hmem
    · intro hmem
      exact ⟨origin, ⟨rfl, hmem⟩, .inr rfl⟩

/-- A list without the wildcard is read as it is meant, unless it is not empty and none of its
entries can be written. -/
theorem meantBy_iff (hwildcard : wildcard ∉ listed) (hvalue : Wire.isHeaderValue origin = true) :
    (origin ∈ listed ∨ Unwritable listed ↔ MeantBy listed origin) ↔
      ¬ (listed ≠ [] ∧ Unwritable listed) := by
  have hmeant : MeantBy listed origin ↔ listed = [] ∨ origin ∈ listed := by
    simp [MeantBy, hwildcard]
  rw [hmeant]
  by_cases hunwritable : Unwritable listed
  · have hforeign : origin ∉ listed := by
      intro hmem
      cases hvalue.symm.trans (hunwritable _ hmem)
    simp [hunwritable, hforeign]
  · have hsome : listed ≠ [] := by
      rintro rfl
      exact hunwritable (by simp [Unwritable])
    simp [hunwritable, hsome]

end

end Origins

/-! ## Responses -/

section
variable {origins : Origins} {response : Response} {x : Request}

/-- The header fields that are added last say what the origins grant. -/
theorem mem_headers_iff {origin : Option String} {granted : String} :
    ("access-control-allow-origin", granted) ∈ origins.headers origin ↔
      origins.grant? origin = some granted := by
  simp [Origins.headers]

/-- A response that is silent up to then grants what the origins do. -/
theorem Response.Silent.grants_sentTo_iff (h : response.Silent) (origin : String) :
    (response.sentTo origins x).Grants origin ↔
      ∃ granted, origins.grant? x.origin = some granted ∧
        (granted = Origins.wildcard ∨ granted = origin) := by
  refine exists_congr fun granted => and_congr_left fun _ => ?_
  change _ ∈ response.headers ++ origins.headers x.origin ↔ _
  rw [List.mem_append, or_iff_right (h granted), mem_headers_iff]

/-- A response that carries a value is silent. -/
theorem silent_json (status : Nat) (body : Json) : (Response.json status body).Silent := by
  simp [Response.Silent, Response.json]

/-- The answer to `OPTIONS` is silent. -/
theorem silent_options (route : Route) : (Response.options route).Silent := by
  simp [Response.Silent, Response.options, Route.allow]

/-- A response that tells how a search ended is silent. -/
theorem silent_ofSearch (expose : Bool) (ended : Option (Except Failure Answer)) :
    (Response.ofSearch expose ended).Silent := by
  rcases ended with _ | _ | _ <;> exact silent_json _ _

/-- The response that says that the server is up is silent. -/
theorem silent_health (method : Method) : (Response.health method).Silent := by
  have hfull := silent_json 200 (.object [("status", .string "ok")])
  unfold Response.health
  dsimp only
  split <;> exact hfull

/-- A response to a method that is not served is silent. -/
theorem silent_methodNotAllowed (route : Route) :
    ((Response.problem .methodNotAllowed).withHeaders route.allow).Silent := by
  simp [Response.Silent, Response.withHeaders, Response.problem, Response.json, Route.allow]

variable {σ : Type} {server : Server (StateM σ)} {s t : σ}

/-- The response to a posted search is silent. -/
theorem silent_of_answerSearch {body : Bytes}
    (h : (server.answerSearch body).run s = (response, t)) : response.Silent := by
  unfold answerSearch at h
  split at h
  · cases h
    exact silent_json _ _
  · cases h
    exact silent_ofSearch _ _

/-- Whatever is served is silent. -/
theorem silent_of_serve {route : Route} (h : (server.serve route x).run s = (response, t)) :
    response.Silent := by
  unfold serve at h
  split at h
  · exact silent_of_answerSearch h
  · cases h
    exact silent_health _
  · cases h
    exact silent_health _
  · cases h
    exact silent_json _ _
  · cases h
    exact silent_methodNotAllowed _

/-- A server grants to the origin of a request what its origins grant. -/
theorem grants_of_handle_iff (h : (server.handle x).run s = (response, t)) (origin : String) :
    response.Grants origin ↔
      ∃ granted, server.origins.grant? x.origin = some granted ∧
        (granted = Origins.wildcard ∨ granted = origin) := by
  unfold handle at h
  dsimp only at h
  split at h
  · cases h
    exact (silent_options _).grants_sentTo_iff origin
  · rcases hserve : (server.serve (Route.ofPath (pathOf x.target)) x).run s with ⟨bare, u⟩
    rw [StateT.run_bind, hserve] at h
    cases h
    exact (silent_of_serve hserve).grants_sentTo_iff origin

/-- A server starts exactly if the wildcard is not in its list of origins. -/
theorem starts_iff {m : Type → Type} [Monad m] {settings : Settings} {e : Embedder (OptionT m)}
    {q : QueryEngine (OptionT m)} :
    (∃ server, ofCollaborators settings e q = .ok server) ↔
      Origins.wildcard ∉ settings.application.allowedOrigins := by
  rw [← Origins.ofList?_eq_none_iff]
  unfold ofCollaborators
  cases Origins.ofList? settings.application.allowedOrigins <;> simp

/-- A server starts exactly if the wildcard is not in its list of origins. Then it grants the origin
of a request exactly if the list holds the origin, or has no entry that a header field can carry.
This is what the list means, but for a list that has entries, none of which a header field can
carry: it means that no origin is granted, and each is. -/
theorem grants_as_meant_iff (settings : Settings) (e : Embedder (OptionT (StateM σ)))
    (q : QueryEngine (OptionT (StateM σ))) :
    ((∃ server, ofCollaborators settings e q = .ok server) ↔
      Origins.wildcard ∉ settings.application.allowedOrigins) ∧
    ∀ {server x origin s response t}, ofCollaborators settings e q = .ok server →
      x.origin = some origin → Wire.isHeaderValue origin = true →
      (server.handle x).run s = (response, t) →
      (response.Grants origin ↔ origin ∈ settings.application.allowedOrigins ∨
        Origins.Unwritable settings.application.allowedOrigins) ∧
      ((response.Grants origin ↔ Origins.MeantBy settings.application.allowedOrigins origin) ↔
        ¬ (settings.application.allowedOrigins ≠ [] ∧
          Origins.Unwritable settings.application.allowedOrigins)) := by
  refine ⟨starts_iff, fun {server x origin s response t} hserver horigin hvalue hrun => ?_⟩
  obtain ⟨hread, -, -⟩ := ofCollaborators_eq_ok hserver
  have hgrants : response.Grants origin ↔ origin ∈ settings.application.allowedOrigins ∨
      Origins.Unwritable settings.application.allowedOrigins := by
    rw [grants_of_handle_iff hrun, horigin]
    exact Origins.grant?_of_ofList? hread hvalue
  refine ⟨hgrants, ?_⟩
  rw [hgrants]
  exact Origins.meantBy_iff (starts_iff.1 ⟨server, hserver⟩) hvalue

/-- Settings with a list of origins. -/
def listing (origins : List String) : Settings :=
  { smallSettings false with application := ⟨8080, "::1", false, origins⟩ }

/-- A server with a list of origins, whose collaborators answer with nothing. -/
def startListing (origins : List String) : Except StartupFault (Server (StateM Unit)) :=
  ofCollaborators (listing origins) ⟨2, fun _ => return .ok []⟩
    ⟨fun _ => return .ok [], fun _ => return .ok ⟨[], []⟩⟩

/-- A page asks whether the server is up. -/
def askedFrom (origin : String) : Request := ⟨.get, "/health", some origin, .ofText ""⟩

/-- An entry that cannot be written does no harm where another one can: the latter alone is
granted. -/
theorem grants_as_meant_iff_mixedList :
    ∃ server own foreign,
      startListing ["https://app.example", "bad\norigin"] = .ok server ∧
      (server.handle (askedFrom "https://app.example")).run () = (own, ()) ∧
      own.Grants "https://app.example" ∧
      (server.handle (askedFrom "https://other.example")).run () = (foreign, ()) ∧
      ¬ foreign.Grants "https://other.example" := by
  obtain ⟨hstarts, hgrants⟩ := grants_as_meant_iff (listing ["https://app.example", "bad\norigin"])
    (⟨2, fun _ => return .ok []⟩ : Embedder (OptionT (StateM Unit)))
    ⟨fun _ => return .ok [], fun _ => return .ok ⟨[], []⟩⟩
  obtain ⟨server, hserver⟩ := hstarts.2 (by decide)
  have hwritable : ¬ Origins.Unwritable ["https://app.example", "bad\norigin"] := by
    intro h
    exact absurd (h "https://app.example" List.mem_cons_self) (by decide)
  rcases hown : (server.handle (askedFrom "https://app.example")).run () with ⟨own, u⟩
  rcases hforeign : (server.handle (askedFrom "https://other.example")).run () with ⟨foreign, u⟩
  refine ⟨server, own, foreign, hserver, hown, ?_, hforeign, fun h => ?_⟩
  · exact (hgrants hserver rfl (by decide) hown).1.2 (.inl List.mem_cons_self)
  · rcases (hgrants hserver rfl (by decide) hforeign).1.1 h with hmem | hnone
    · exact absurd hmem (by decide)
    · exact hwritable hnone

/-- A list of one entry that cannot be written grants every origin. With the wildcard in its list,
no server starts. -/
theorem not_grants_as_meant_badList :
    (∃ server response, startListing ["bad\norigin"] = .ok server ∧
      (server.handle (askedFrom "https://other.example")).run () = (response, ()) ∧
      response.Grants "https://other.example" ∧
      ¬ Origins.MeantBy ["bad\norigin"] "https://other.example") ∧
    startListing ["https://app.example", "*"] = .error .wildcardOrigin ∧
      Origins.MeantBy ["https://app.example", "*"] "https://app.example" := by
  obtain ⟨server, hserver, hall⟩ :
      ∃ server, startListing ["bad\norigin"] = .ok server ∧ server.origins = .all := ⟨_, rfl, rfl⟩
  rcases hrun : (server.handle (askedFrom "https://other.example")).run () with ⟨response, u⟩
  refine ⟨⟨server, response, hserver, hrun, ?_, ?_⟩, rfl, .inr (.inl List.mem_cons_self)⟩
  · rw [grants_of_handle_iff hrun, hall]
    exact ⟨_, Origins.grant?_all _, .inl rfl⟩
  · rintro (⟨⟨⟩⟩ | hmem | hmem)
    · exact absurd hmem (by decide)
    · exact absurd hmem (by decide)

end

end SearchGateway.Server
