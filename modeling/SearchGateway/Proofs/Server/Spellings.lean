import Mathlib
import SearchGateway.Proofs.Server.Bodies

/-!
# One filter in several spellings

A list of members can be written in either notation and in either of two fields of a body
(`SpellsIn`). Bodies that spell the list so, and are alike in all else (`Respells`), are read alike.
They are refused alike, or lead to the same consultation of the collaborators (`search_respelled`),
and get responses that differ in nothing but the filter as it was written (`handle_respelled`). The
older notation takes one container more, and containers may be nested only so deep: a list that is
nested as deep as the current notation allows cannot be read in the older one
(`not_respelled_tooDeep`).
-/

namespace SearchGateway

open SearchGateway.Filter (Defect Notates)

section
variable {policy : Policy} {members : List Json} {root root' : Path} {v v' : Json}

/-- The list in a filter passes or does not, in either notation. -/
theorem checkFilter_of_notates (h : Notates members root v) :
    policy.checkFilter v =
      ((Filter.readMembers [] members).mapError (Defect.under root)).bind fun nodes =>
        if policy.strictFilterValues = true then (Filter.Expression.mk nodes).checkValues
        else .ok () := by
  unfold Policy.checkFilter
  rw [h.ofJson_eq]
  cases Filter.readMembers [] members <;> rfl

/-- Two spellings pass alike, or have one defect in one place. -/
inductive PassesAlike : Except Defect Unit → Except Defect Unit → Prop where
  | same (outcome : Except Defect Unit) : PassesAlike outcome outcome
  | defect {d d' : Defect} (h : d.SamePlace d') : PassesAlike (.error d) (.error d')

/-- Both notations of a list pass alike. -/
theorem checkFilter_respelled (h : Notates members root v) (h' : Notates members root' v') :
    PassesAlike (policy.checkFilter v) (policy.checkFilter v') := by
  rw [checkFilter_of_notates h, checkFilter_of_notates h']
  cases Filter.readMembers [] members with
  | error d => exact .defect (h.samePlace_under h' d)
  | ok nodes => exact .same _

end

/-! ## Searches -/

/-- The same parameters, of a filter that was written in another way. -/
def Parameters.withRaw (p : Parameters) (raw : Json) : Parameters :=
  { p with filters := ⟨raw, p.filters.normal⟩ }

/-- Two requests are refused alike, or accepted with parameters that differ in the raw filter. -/
inductive AcceptsAlike : Except Failure Parameters → Except Failure Parameters → Prop where
  | refused (f : Failure) : AcceptsAlike (.error f) (.error f)
  | invalidFilter {d d' : Defect} (h : d.SamePlace d') :
    AcceptsAlike (.error (.invalidFilter d)) (.error (.invalidFilter d'))
  | accepted (p : Parameters) (raw : Json) : AcceptsAlike (.ok p) (.ok (p.withRaw raw))

/-- Two searches are refused alike, fail alike, or have answers that differ in the raw filter. -/
inductive EndsAlike : Except Failure Answer → Except Failure Answer → Prop where
  | same (f : Failure) : EndsAlike (.error f) (.error f)
  | invalidFilter {d d' : Defect} (h : d.SamePlace d') :
    EndsAlike (.error (.invalidFilter d)) (.error (.invalidFilter d'))
  | collaborator (stage : Stage) (text : String) (filters : FilterForms) (raw : Json) :
    EndsAlike (.error (.collaborator stage text filters))
      (.error (.collaborator stage text ⟨raw, filters.normal⟩))
  | answered (results : List Match) (p : Parameters) (raw : Json) (mode : FusionMode) :
    EndsAlike (.ok (.of results p mode)) (.ok (.of results (p.withRaw raw) mode))

section
variable {policy : Policy} {members : List Json} {root root' : Path} {v v' : Json}
  {r r' : SearchRequest}

/-- Requests that spell one list are accepted alike. -/
theorem accept_respelled (h : Notates members root r.filter)
    (h' : Notates members root' r'.filter) (hrest : r' = { r with filter := r'.filter }) :
    AcceptsAlike (policy.accept r) (policy.accept r') := by
  generalize r'.filter = v at h' hrest
  subst hrest
  unfold Policy.accept
  dsimp only
  split
  · exact .refused _
  · cases DistanceMethod.ofName? r.distanceMethod with
    | none => exact .refused _
    | some method =>
      have hnormal : FilterForms.of v = ⟨v, (FilterForms.of r.filter).normal⟩ :=
        congrArg (FilterForms.mk v) (h'.normalForm_eq.trans h.normalForm_eq.symm)
      rw [hnormal]
      have hpasses : PassesAlike (policy.checkFilter r.filter) (policy.checkFilter v) :=
        checkFilter_respelled h h'
      generalize policy.checkFilter r.filter = passed, policy.checkFilter v = passed' at hpasses
      cases hpasses with
      | defect hplace => exact .invalidFilter hplace
      | same passed =>
        cases passed with
        | error d => exact .refused _
        | ok u => exact .accepted _ v

/-- What the collaborators bring is told alike. -/
theorem conclude_respelled (p : Parameters) (raw : Json) (mode : FusionMode)
    (brought : Except (Stage × Failure) (List Match)) :
    EndsAlike (p.conclude mode brought) ((p.withRaw raw).conclude mode brought) := by
  cases brought with
  | ok results => exact .answered results p raw mode
  | error failed =>
    obtain ⟨stage, f⟩ := failed
    cases f with
    | collaborator => exact .same _
    | missingQuery | unknownDistanceMethod | invalidFilter | embedding | queryEngine
    | configuration => exact .collaborator ..

/-- Searches that spell one list ask the collaborators the same, and end alike. -/
theorem search_respelled {σ : Type} (policy : Policy) (e : Embedder (OptionT (StateM σ)))
    (q : QueryEngine (OptionT (StateM σ))) (h : Notates members root r.filter)
    (h' : Notates members root' r'.filter) (hrest : r' = { r with filter := r'.filter }) (s : σ) :
    ∃ ended ended' t, (search policy e q r).run.run s = (ended, t) ∧
      (search policy e q r').run.run s = (ended', t) ∧ Option.Rel EndsAlike ended ended' := by
  have haccepts : AcceptsAlike (policy.accept r) (policy.accept r') :=
    accept_respelled h h' hrest
  generalize haccept : policy.accept r = accepted, haccept' : policy.accept r' = accepted'
    at haccepts
  cases haccepts with
  | refused f =>
    rw [search_of_refused haccept, search_of_refused haccept']
    exact ⟨_, _, s, rfl, rfl, .some (.same f)⟩
  | invalidFilter hplace =>
    rw [search_of_refused haccept, search_of_refused haccept']
    exact ⟨_, _, s, rfl, rfl, .some (.invalidFilter hplace)⟩
  | accepted p raw =>
    -- the raw filter is no part of what the collaborators are asked
    have hconsult : consult e q policy.fusion (p.withRaw raw) = consult e q policy.fusion p :=
      consult_congr rfl rfl
    rw [search_eq_map_consult haccept, search_eq_map_consult haccept', hconsult]
    simp only [OptionT.run_map, StateT.run_map]
    refine ⟨_, _, _, rfl, rfl, ?_⟩
    cases ((consult e q policy.fusion p).run.run s).1 with
    | none => exact .none
    | some brought => exact .some (conclude_respelled p raw policy.fusion brought)

end

namespace Server

/-! ## Responses -/

/-- Two responses agree, but for the filter as it was written: in status, header fields and all
fields of the body apart from the echo of the parameters, details and circumstances, and in the echo
of the parameters apart from the raw filter. -/
structure Response.Alike (response response' : Response) : Prop where
  status : response'.status = response.status
  headers : response'.headers = response.headers
  field : ∀ key, key ∉ ["search_params", "details", "debug_info"] →
    response'.field? key = response.field? key
  parameter : ∀ key, key ≠ "original_filter" →
    (response'.field? "search_params").bind (·.get? key) =
      (response.field? "search_params").bind (·.get? key)

/-- A response agrees with itself. -/
theorem Response.Alike.refl (response : Response) : response.Alike response :=
  ⟨rfl, rfl, fun _ _ => rfl, fun _ _ => rfl⟩

/-- Responses sent to one origin agree as they did before. -/
theorem Response.Alike.sentTo {response response' : Response} (h : response.Alike response')
    (origins : Origins) {x x' : Request} (horigin : x'.origin = x.origin) :
    (Response.sentTo origins x response).Alike (Response.sentTo origins x' response') where
  status := h.status
  headers := by
    change response'.headers ++ origins.headers x'.origin =
      response.headers ++ origins.headers x.origin
    rw [h.headers, horigin]
  field := h.field
  parameter := h.parameter

/-- Problems with one status, one code and one message are told alike. -/
theorem alike_problem {p p' : Problem} (hstatus : p'.status = p.status) (hcode : p'.code = p.code)
    (hmessage : p'.message = p.message) : (Response.problem p).Alike (.problem p') where
  status := congrArg Wire.Status.code hstatus
  headers := rfl
  field key hkey := by
    simp only [List.mem_cons, List.not_mem_nil, or_false, not_or] at hkey
    obtain ⟨-, hdetails, hdebug⟩ := hkey
    change p'.toJson.get? key = p.toJson.get? key
    rw [Problem.get?_toJson hdebug hdetails, Problem.get?_toJson hdebug hdetails, hcode, hmessage]
  parameter key _ := by
    change (p'.toJson.get? "search_params").bind _ = (p.toJson.get? "search_params").bind _
    rw [Problem.get?_toJson (by decide) (by decide), Problem.get?_toJson (by decide) (by decide)]
    rfl

/-- Redaction leaves problems alike. -/
theorem alike_redacted {p p' : Problem} (expose : Bool) (hstatus : p'.status = p.status)
    (hcode : p'.code = p.code) (hmessage : p'.message = p.message) :
    (Response.problem (p.redacted expose)).Alike (.problem (p'.redacted expose)) := by
  refine alike_problem ?_ ?_ ?_
  · rw [p'.status_redacted, p.status_redacted, hstatus]
  · rw [p'.code_redacted, p.code_redacted, hcode]
  · rw [p'.message_redacted, p.message_redacted, hmessage]

/-- Answers that differ in the raw filter are told alike. -/
theorem alike_answer (results : List Match) (p : Parameters) (raw : Json) (mode : FusionMode) :
    (Response.json 200 (Answer.of results p mode).toJson).Alike
      (.json 200 (Answer.of results (p.withRaw raw) mode).toJson) where
  status := rfl
  headers := rfl
  field key hkey := by
    have hparams : (key == "search_params") = false :=
      beq_false_of_ne (List.ne_of_not_mem_cons hkey)
    change (Answer.of results (p.withRaw raw) mode).toJson.get? key =
      (Answer.of results p mode).toJson.get? key
    simp only [Answer.toJson, Json.get?, List.lookup_cons, hparams]
    rfl
  parameter key hkey := by
    change (p.withRaw raw).toJson.get? key = p.toJson.get? key
    have hfilter : (key == "original_filter") = false := beq_false_of_ne hkey
    simp only [Parameters.toJson, Json.get?, List.lookup_cons, hfilter]
    rfl

/-- Searches that end alike are told alike. -/
theorem alike_ofSearch (expose : Bool) {ended ended' : Option (Except Failure Answer)}
    (h : Option.Rel EndsAlike ended ended') :
    (Response.ofSearch expose ended).Alike (.ofSearch expose ended') := by
  cases h with
  | none => exact .refl _
  | some h =>
    cases h with
    | same f => exact .refl _
    | invalidFilter | collaborator => exact alike_redacted expose rfl rfl rfl
    | answered results p raw mode => exact alike_answer results p raw mode

/-! ## Requests -/

/-- Two requests from one origin post bodies that spell one list of members and are alike in all
else. Either both bodies are too long or none is. -/
structure Respells (members : List Json) (x x' : Request) : Prop where
  isSearch : x.IsSearch
  isSearch' : x'.IsSearch
  origin : x'.origin = x.origin
  length : bodyLimit < x'.body.length ↔ bodyLimit < x.body.length
  columns : ∃ columns columns', bodyColumns? x.body = some columns ∧
    bodyColumns? x'.body = some columns' ∧ SpellsIn members columns ∧ SpellsIn members columns' ∧
    otherColumns columns' = otherColumns columns

/-- Two requests that spell one list of members leave the collaborators, and so all that was asked
of them, in one state, and get responses that agree but for the filter as it was written. If one of
the bodies is read, so is the other, and the searches end alike: a filter that is refused in one has
the same defect in the same place of the list in the other. -/
theorem handle_respelled {σ : Type} {settings : Settings} {e : Embedder (OptionT (StateM σ))}
    {q : QueryEngine (OptionT (StateM σ))} {server : Server (StateM σ)} {members : List Json}
    {x x' : Request} (hserver : ofCollaborators settings e q = .ok server)
    (h : Respells members x x') (s : σ) :
    ∃ response response' t, (server.handle x).run s = (response, t) ∧
      (server.handle x').run s = (response', t) ∧ response.Alike response' ∧
      ((∃ b, x.Posts b) ↔ ∃ b', x'.Posts b') ∧
      ∀ b b', x.Posts b → x'.Posts b' → ∃ ended ended',
        (search settings.policy e q b.toRequest).run.run s = (ended, t) ∧
        (search settings.policy e q b'.toRequest).run.run s = (ended', t) ∧
        Option.Rel EndsAlike ended ended' := by
  obtain ⟨-, -, hanswer⟩ := ofCollaborators_eq_ok hserver
  obtain ⟨hx, hx', horigin, hlength, columns, columns', hcolumns, hcolumns', hspells, hspells',
    hrest⟩ := h
  by_cases hlong : bodyLimit < x.body.length
  · rw [handle_of_problem server hx (if_pos hlong),
      handle_of_problem server hx' (if_pos (hlength.2 hlong))]
    have hposts : ∀ b, ¬ x.Posts b := fun b hb => absurd hlong (Nat.not_lt.2 hb.length)
    have hposts' : ∀ b, ¬ x'.Posts b :=
      fun b hb => absurd (hlength.2 hlong) (Nat.not_lt.2 hb.length)
    refine ⟨_, _, s, rfl, rfl, (alike_problem rfl rfl rfl).sentTo server.origins horigin,
      iff_of_false (not_exists.2 hposts) (not_exists.2 hposts'), fun b _ hb => absurd hb (hposts b)⟩
  · have hlong' := hlength.not.2 hlong
    rw [Nat.not_lt] at hlong hlong'
    rcases read_respelled hcolumns hcolumns' hspells hspells' hrest with
      ⟨b, b', hread, hread', hb, hb', hothers⟩ | ⟨f, f', hread, hread'⟩
    · have hposts : x.Posts b := ⟨hx, hlong, hread⟩
      have hposts' : x'.Posts b' := ⟨hx', hlong', hread'⟩
      obtain ⟨root, hnotates⟩ := hb.exists_notates
      obtain ⟨root', hnotates'⟩ := hb'.exists_notates
      obtain ⟨ended, ended', t, hrun, hrun', hends⟩ := search_respelled settings.policy e q
        hnotates hnotates' (RequestBody.toRequest_of_withoutFilters hothers) s
      rw [handle_of_request server hx hposts.requestOf_eq,
        handle_of_request server hx' hposts'.requestOf_eq, StateT.run_map, StateT.run_map, hanswer,
        hrun, hrun']
      have halike := alike_ofSearch server.exposeErrorDetails hends
      refine ⟨_, _, t, rfl, rfl, halike.sentTo server.origins horigin,
        iff_of_true ⟨b, hposts⟩ ⟨b', hposts'⟩, fun c c' hc hc' => ?_⟩
      cases hread.symm.trans hc.read
      cases hread'.symm.trans hc'.read
      exact ⟨ended, ended', hrun, hrun', hends⟩
    · rw [handle_of_problem server hx (requestOf_of_unreadable hlong hread),
        handle_of_problem server hx' (requestOf_of_unreadable hlong' hread')]
      have halike : (Response.problem (.invalidBody (f.message x.body))).Alike
          (.problem (.invalidBody (f'.message x'.body))) := alike_problem rfl rfl rfl
      have hposts : ∀ b, ¬ x.Posts b := fun b hb => by cases hread.symm.trans hb.read
      have hposts' : ∀ b, ¬ x'.Posts b := fun b hb => by cases hread'.symm.trans hb.read
      exact ⟨_, _, s, rfl, rfl, halike.sentTo server.origins horigin,
        iff_of_false (not_exists.2 hposts) (not_exists.2 hposts'),
        fun b _ hb => absurd hb (hposts b)⟩

/-- A list of one member, which is a group without members. -/
def emptyGroup : List Json := [.object [("and", .array [])]]

/-- The text of the list. -/
def emptyGroupText : String := "[\x7b\"and\":[]\x7d]"

/-- A filter with the list in the current notation. -/
def currentFilter : String := "\x7b\"filters\":" ++ emptyGroupText ++ "\x7d"

/-- A filter with the list in the older notation. -/
def olderFilter : String := "\x7b\"filter\": " ++ currentFilter ++ "\x7d"

/-- A body with the list in `metadata_filter`, in the current notation, and a zero in `filter`. -/
def metadataBody : String :=
  "\x7b\"query\":\"one\",\"metadata_filter\":" ++ currentFilter ++ ",\"filter\":0\x7d"

/-- A body with the list in `filter`, in the older notation, and a number in `metadata_filter`. -/
def ownBody : String :=
  "\x7b\"filter\":" ++ olderFilter ++ ",\"query\":\"one\",\"metadata_filter\":7\x7d"

/-- A query engine that finds nothing. -/
def emptyEngine : QueryEngine (OptionT (StateM Canned.Calls)) :=
  (Canned.engine ⟨[], ⟨[], []⟩, none⟩).lift

/-- A server whose collaborators answer, and record what they are asked. -/
def cannedServer : Server (StateM Canned.Calls) :=
  { origins := .all
    exposeErrorDetails := false
    answer := search (smallSettings false).policy constantEmbedder emptyEngine }

/-- `metadataBody` and `ownBody` lead to the same calls, and get responses that agree. -/
theorem handle_respelled_emptyGroup :
    ∃ response response' calls,
      (cannedServer.handle (searchWith "/search" metadataBody)).run .none = (response, calls) ∧
      (cannedServer.handle (searchWith "/search" ownBody)).run .none = (response', calls) ∧
      response.Alike response' ∧ response.status = 200 := by
  have hserver : ofCollaborators (smallSettings false) constantEmbedder emptyEngine =
      .ok cannedServer := rfl
  have hlist : ListText emptyGroup (.ofText emptyGroupText) := ⟨by cbv, by decide +kernel⟩
  have hcurrent : Json.members? (.ofText currentFilter) =
      some [("filters", .ofText emptyGroupText)] := by decide +kernel
  have holder : Json.members? (.ofText olderFilter) =
      some [("filter", .ofText currentFilter)] := by decide +kernel
  have hcolumns : bodyColumns? (.ofText metadataBody) =
      some [("query", .ofText "\"one\""), ("metadata_filter", .ofText currentFilter),
        ("filter", .ofText "0")] := by decide +kernel
  have hcolumns' : bodyColumns? (.ofText ownBody) =
      some [("filter", .ofText olderFilter), ("query", .ofText "\"one\""),
        ("metadata_filter", .ofText "7")] := by decide +kernel
  have hzero : Json.read? .any (.ofText "0") = some (.int 0) := by cbv
  have hseven : Json.read? .any (.ofText "7") = some (.int 7) := by cbv
  have hrespells : Respells emptyGroup (searchWith "/search" metadataBody)
      (searchWith "/search" ownBody) :=
    { isSearch := ⟨rfl, by decide +kernel⟩
      isSearch' := ⟨rfl, by decide +kernel⟩
      origin := rfl
      length := by decide +kernel
      columns := ⟨_, _, hcolumns, hcolumns',
        .metadata (.current hcurrent hlist) rfl (.present rfl hzero rfl),
        .own (.older holder hcurrent hlist) rfl (.present rfl hseven (by decide +kernel)), rfl⟩ }
  obtain ⟨response, response', calls, hrun, hrun', halike, -⟩ :=
    handle_respelled hserver hrespells .none
  have hread : RequestBody.read (.ofText metadataBody) =
      .ok ⟨some "one", some (Filter.ofMembers emptyGroup), some (.int 0), none, none, none, none,
        none⟩ :=
    toOption_eq_some_iff.1 ((read_of_bodyColumns? hcolumns).trans (by cbv))
  have hposts : (searchWith "/search" metadataBody).Posts _ :=
    ⟨hrespells.isSearch, by decide +kernel, hread⟩
  have hstatus : response.status = 200 := by
    have hrun := congrArg (fun run => run.1.status) hrun
    rw [handle_of_request cannedServer hposts.toIsSearch hposts.requestOf_eq] at hrun
    exact hrun.symm.trans (by decide +kernel)
  exact ⟨response, response', calls, hrun, hrun', halike, hstatus⟩

/-- The text of empty lists in one another, so many of them. -/
def nestedText (n : Nat) : String :=
  .ofList (List.replicate n '[' ++ List.replicate n ']')

/-- The text of a list in the current notation of a filter. -/
def currentText (list : String) : String := "\x7b\"filters\":" ++ list ++ "\x7d"

/-- The text of a list in the older notation of a filter. -/
def olderText (list : String) : String := "\x7b\"filter\":" ++ currentText list ++ "\x7d"

/-- A body with a blank query and the text of a filter in `metadata_filter`. -/
def blankBody (filter : String) : String :=
  "[\" \"," ++ filter ++ ",null,null,null,null,null,null]"

/-- Spelt in the older notation, a list is nested deeper than a body may be. Its request has no
query, which the response says in the current notation only. -/
theorem not_respelled_tooDeep :
    ((((cannedServer.handle (searchWith "/search"
        (blankBody (currentText (nestedText 125))))).run .none).1.field? "code").bind
          Json.string? = some "MISSING_QUERY") ∧
      (((cannedServer.handle (searchWith "/search"
        (blankBody (olderText (nestedText 125))))).run .none).1.field? "code").bind
          Json.string? = some "INVALID_REQUEST_BODY" := by
  decide +kernel

end Server

end SearchGateway
