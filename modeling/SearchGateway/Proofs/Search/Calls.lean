import SearchGateway.Proofs.Search.Run
import SearchGateway.Proofs.Search.Validation
import SearchGateway.Search.Canned

/-!
# Calls of the collaborators

A search calls each collaborator at most once, the embedder first, and neither for a request that is
refused. With canned collaborators, which record their calls, this is said of the record: what one
search adds to it is nothing, or the calls of an accepted request (`Canned.callsFor`). The outcome
of a search and what it adds depend on the calls before it only through the embedder's
answer (`Canned.exists_outcome`), so where the embedder always gives the same one, a sequence of
searches is that many searches, each on its own (`searchAll_calls`).
-/

namespace SearchGateway

/-- Whether a failure is the refusal of a request, which comes before any collaborator is called. -/
def Failure.isRefusal : Failure → Bool
  | .missingQuery | .unknownDistanceMethod _ | .invalidFilter _ => true
  | .embedding _ | .queryEngine _ | .collaborator .. | .configuration _ => false

/-- Validation fails with refusals only. -/
theorem isRefusal_of_accept {policy : Policy} {r : SearchRequest} {f : Failure}
    (h : policy.accept r = .error f) : f.isRefusal = true := by
  cases accept_eq_error_iff.1 h <;> rfl

/-- What is told with a step at which a collaborator was called is no refusal. -/
theorem isRefusal_during (stage : Stage) (filters : FilterForms) (f : Failure) :
    (f.during stage filters).isRefusal = false := by
  cases f <;> rfl

/-- Answers requests one after the other, with the same collaborators. -/
def searchAll {m : Type → Type} [Monad m] (policy : Policy) (e : Embedder m) (q : QueryEngine m)
    (rs : List SearchRequest) : m (List (Except Failure Answer)) :=
  rs.mapM (search policy e q)

namespace Canned

/-- The record after further calls, given in the order in which they are made. -/
def Calls.after (calls : Calls) (more : List Call) : Calls := ⟨more.reverse ++ calls.log⟩

/-- The vector that an answer of the embedder brings, if it has the right length. -/
def vectorOf? (dimensions : Nat) : Except String (List Float32) → Option (List Float32)
  | .ok vector => if vector.length = dimensions then some vector else none
  | .error _ => none

/-- The calls for an accepted request: the embedder is called with the query, and then, if its
answer is a vector of the right length, the query engine with the vector. -/
def callsFor (dimensions : Nat) (answer : Except String (List Float32)) (p : Parameters) :
    List Call :=
  .embedder p.query ::
    match vectorOf? dimensions answer with
    | some vector => [.engine (p.engineRequest vector)]
    | none => []

section
variable {policy : Policy} {ed : EmbedderData} {qd : EngineData} {r : SearchRequest}

/-- An embedder with a single vector always gives the same answer. -/
theorem answerAfter_of_later_eq_nil (h : ed.later = []) (calls : Nat) :
    ed.answerAfter calls = ed.answer := by
  obtain ⟨dimensions, answer, later⟩ := ed
  cases h
  cases answer with
  | error text => rfl
  | ok first => simp [EmbedderData.answerAfter, Except.map, Nat.mod_one]

/-- The embedder records its call, and its answer has to have the right length. -/
theorem run_vector (ed : EmbedderData) (query : String) (calls : Calls) :
    ((embedder ed).vector query).run calls =
      (((ed.answerAfter calls.embedder).mapError .embedding).bind (checkDimensions ed.dimensions),
        calls.push (.embedder query)) := rfl

/-- The answer of the embedder passes where it is a vector of the right length. -/
theorem check_of_vectorOf?_eq_some {dimensions : Nat} {answer : Except String (List Float32)}
    {vector : List Float32} (h : vectorOf? dimensions answer = some vector) :
    (answer.mapError Failure.embedding).bind (checkDimensions dimensions) = .ok vector := by
  cases answer with
  | error text => cases h
  | ok first =>
    simp only [vectorOf?] at h
    split at h
    · next hlength =>
      cases h
      exact if_pos hlength
    · cases h

/-- Any other answer of the embedder is a failure. -/
theorem check_of_vectorOf?_eq_none {dimensions : Nat} {answer : Except String (List Float32)}
    (h : vectorOf? dimensions answer = none) :
    ∃ f, (answer.mapError Failure.embedding).bind (checkDimensions dimensions) = .error f := by
  cases answer with
  | error text => exact ⟨_, rfl⟩
  | ok first =>
    simp only [vectorOf?] at h
    split at h
    · cases h
    · next hlength => exact ⟨_, if_neg hlength⟩

/-- The query engine records its call, and its answer does not depend on the calls before. -/
theorem exists_run_engine (qd : EngineData) (mode : FusionMode) (request : EngineRequest) :
    ∃ outcome, ∀ calls,
      ((engine qd).run mode request).run calls = (outcome, calls.push (.engine request)) := by
  obtain ⟨results, rankings, failure⟩ := qd
  cases mode <;> cases failure <;> exact ⟨_, fun _ => rfl⟩

/-- What an accepted request comes to is settled by the embedder's answer. Its calls are made, and
it is not refused. -/
theorem exists_outcome_of_accepted {p : Parameters} (haccept : policy.accept r = .ok p)
    (ed : EmbedderData) (qd : EngineData) (answer : Except String (List Float32)) :
    ∃ outcome,
      (∀ calls, ed.answerAfter calls.embedder = answer →
        (search policy (embedder ed) (engine qd) r).run calls =
          (outcome, calls.after (callsFor ed.dimensions answer p))) ∧
      ∀ f, outcome = .error f → f.isRefusal = false := by
  unfold callsFor
  cases hvector : vectorOf? ed.dimensions answer with
  | none =>
    obtain ⟨f, hf⟩ := check_of_vectorOf?_eq_none hvector
    refine ⟨.error (f.during .embedding p.filters), ?_, ?_⟩
    · rintro calls rfl
      rw [run_search_of_accepted haccept, run_vector, hf]
      rfl
    · rintro _ ⟨⟩
      exact isRefusal_during ..
  | some vector =>
    have hcheck := check_of_vectorOf?_eq_some hvector
    obtain ⟨found, hfound⟩ := exists_run_engine qd policy.fusion (p.engineRequest vector)
    cases found with
    | error f =>
      refine ⟨.error (f.during .queryEngine p.filters), ?_, ?_⟩
      · rintro calls rfl
        rw [run_search_of_accepted haccept, run_vector, hcheck]
        dsimp only
        rw [hfound]
        rfl
      · rintro _ ⟨⟩
        exact isRefusal_during ..
    | ok results =>
      refine ⟨.ok (.of results p policy.fusion), ?_, ?_⟩
      · rintro calls rfl
        rw [run_search_of_accepted haccept, run_vector, hcheck]
        dsimp only
        rw [hfound]
        rfl
      · rintro _ ⟨⟩

/-- The calls for a request: none where it is refused. -/
def callsOf (policy : Policy) (dimensions : Nat) (answer : Except String (List Float32))
    (r : SearchRequest) : List Call :=
  match policy.accept r with
  | .error _ => []
  | .ok p => callsFor dimensions answer p

/-- What a request comes to, and which calls it makes, is settled by the embedder's answer. It is
refused exactly where validation fails. -/
theorem exists_outcome (policy : Policy) (ed : EmbedderData) (qd : EngineData) (r : SearchRequest)
    (answer : Except String (List Float32)) :
    ∃ outcome,
      (∀ calls, ed.answerAfter calls.embedder = answer →
        (search policy (embedder ed) (engine qd) r).run calls =
          (outcome, calls.after (callsOf policy ed.dimensions answer r))) ∧
      ((∃ f, policy.accept r = .error f ∧ outcome = .error f) ∨
        (∃ p, policy.accept r = .ok p) ∧ ∀ f, outcome = .error f → f.isRefusal = false) := by
  unfold callsOf
  cases haccept : policy.accept r with
  | error f =>
    exact ⟨.error f, fun calls _ => run_search_of_refused haccept calls, .inl ⟨f, rfl, rfl⟩⟩
  | ok p =>
    obtain ⟨outcome, hrun, hfailure⟩ := exists_outcome_of_accepted haccept ed qd answer
    exact ⟨outcome, hrun, .inr ⟨⟨p, rfl⟩, hfailure⟩⟩

/-! ## Sequences of searches -/

/-- The parameters of the requests that are accepted. -/
def accepted (policy : Policy) (rs : List SearchRequest) : List Parameters :=
  rs.filterMap fun r => (policy.accept r).toOption

/-- The requests to the query engine that accepted requests lead to. -/
def requestsFor (dimensions : Nat) (answer : Except String (List Float32))
    (ps : List Parameters) : List EngineRequest :=
  match vectorOf? dimensions answer with
  | some vector => ps.map (·.engineRequest vector)
  | none => []

/-- Further calls in two parts. -/
theorem Calls.after_append (calls : Calls) (first second : List Call) :
    calls.after (first ++ second) = (calls.after first).after second := by
  simp [Calls.after]

/-- The number of calls of the embedder after further calls. -/
theorem Calls.embedder_after (calls : Calls) (more : List Call) :
    (calls.after more).embedder = calls.embedder + more.countP Call.isEmbedder := by
  simp [Calls.after, Calls.embedder, Nat.add_comm]

/-- The requests to the query engine after further calls. -/
theorem Calls.engine_after (calls : Calls) (more : List Call) :
    (calls.after more).engine = (more.filterMap Call.request?).reverse ++ calls.engine := by
  simp [Calls.after, Calls.engine]

/-- The embedder is called once for every request that is accepted. -/
theorem countP_isEmbedder_callsOf (policy : Policy) (dimensions : Nat)
    (answer : Except String (List Float32)) (rs : List SearchRequest) :
    (rs.flatMap (callsOf policy dimensions answer)).countP Call.isEmbedder =
      (accepted policy rs).length := by
  induction rs with
  | nil => rfl
  | cons r rs ih =>
    have hone : (callsOf policy dimensions answer r).countP Call.isEmbedder =
        (policy.accept r).toOption.toList.length := by
      unfold callsOf callsFor
      cases policy.accept r <;> cases vectorOf? dimensions answer <;> rfl
    rw [List.flatMap_cons, List.countP_append, ih, hone, accepted, accepted, List.filterMap_cons]
    cases (policy.accept r).toOption <;> simp [Nat.add_comm]

/-- The query engine is asked once for every request that is accepted, if the embedder answers with
a vector of the right length, and else never. -/
theorem filterMap_request_callsOf (policy : Policy) (dimensions : Nat)
    (answer : Except String (List Float32)) (rs : List SearchRequest) :
    (rs.flatMap (callsOf policy dimensions answer)).filterMap Call.request? =
      requestsFor dimensions answer (accepted policy rs) := by
  induction rs with
  | nil => cases hvector : vectorOf? dimensions answer <;> simp [requestsFor, hvector, accepted]
  | cons r rs ih =>
    rw [List.flatMap_cons, List.filterMap_append, ih]
    unfold requestsFor callsOf callsFor accepted
    rw [List.filterMap_cons]
    cases policy.accept r <;> cases vectorOf? dimensions answer <;> rfl

/-- Where the embedder has a single vector, each search of a sequence comes to what it comes to on
its own, and adds its own calls to the record. -/
theorem run_searchAll (policy : Policy) (qd : EngineData) (hsingle : ed.later = [])
    (rs : List SearchRequest) (calls : Calls) :
    (searchAll policy (embedder ed) (engine qd) rs).run calls =
      (rs.map fun r => ((search policy (embedder ed) (engine qd) r).run .none).1,
        calls.after (rs.flatMap (callsOf policy ed.dimensions ed.answer))) := by
  induction rs generalizing calls with
  | nil => rfl
  | cons r rs ih =>
    obtain ⟨outcome, hrun, -⟩ := exists_outcome policy ed qd r ed.answer
    have halways : ∀ calls : Calls, ed.answerAfter calls.embedder = ed.answer := fun calls =>
      answerAfter_of_later_eq_nil hsingle calls.embedder
    unfold searchAll at ih ⊢
    rw [List.mapM_cons, StateT.run_bind, hrun calls (halways calls), List.map_cons,
      hrun .none (halways .none), List.flatMap_cons, Calls.after_append]
    change StateT.run (List.mapM (search policy (embedder ed) (engine qd)) rs >>= _)
      (calls.after (callsOf policy ed.dimensions ed.answer r)) = _
    rw [StateT.run_bind, ih]
    rfl

end

end Canned

open Canned in
/-- With canned collaborators, a search that is refused calls neither of them. Any other one calls
the embedder once, and then the query engine once if the embedder answered with a vector of the
right length, and else not. If the embedder has a single vector, then the searches of a sequence
come each to what it comes to on its own with nothing recorded before, whatever came before it; the
embedder is called once for each of those that are accepted, and the query engine gets precisely the
requests of these, in their order, or none at all if the vector has the wrong length. -/
theorem searchAll_calls (policy : Policy) (ed : EmbedderData) (qd : EngineData) :
    (∀ r calls, ∃ outcome made,
      (search policy (embedder ed) (engine qd) r).run calls = (outcome, calls.after made) ∧
      ((∃ f, outcome = .error f ∧ f.isRefusal = true) ∧ made = [] ∨
        (∀ f, outcome = .error f → f.isRefusal = false) ∧ ∃ p, policy.accept r = .ok p ∧
          made = callsFor ed.dimensions (ed.answerAfter calls.embedder) p)) ∧
    (ed.later = [] → ∀ rs calls, ∃ after,
      (searchAll policy (embedder ed) (engine qd) rs).run calls =
        (rs.map fun r => ((search policy (embedder ed) (engine qd) r).run .none).1, after) ∧
      after = calls.after (rs.flatMap (callsOf policy ed.dimensions ed.answer)) ∧
      after.embedder = calls.embedder + (accepted policy rs).length ∧
      after.engine.reverse =
        calls.engine.reverse ++ requestsFor ed.dimensions ed.answer (accepted policy rs)) := by
  refine ⟨fun r calls => ?_, fun hsingle rs calls => ?_⟩
  · obtain ⟨outcome, hrun, hcases⟩ :=
      exists_outcome policy ed qd r (ed.answerAfter calls.embedder)
    refine ⟨outcome, _, hrun calls rfl, ?_⟩
    rcases hcases with ⟨f, haccept, rfl⟩ | ⟨⟨p, haccept⟩, hfailure⟩
    · exact .inl ⟨⟨f, rfl, isRefusal_of_accept haccept⟩, by simp [callsOf, haccept]⟩
    · exact .inr ⟨hfailure, p, haccept, by simp [callsOf, haccept]⟩
  · refine ⟨_, run_searchAll policy qd hsingle rs calls, rfl, ?_, ?_⟩
    · rw [Calls.embedder_after, countP_isEmbedder_callsOf]
    · rw [Calls.engine_after, filterMap_request_callsOf, List.reverse_append, List.reverse_reverse]

/-- A request for the documents on a query, by a distance method. -/
def plainRequest (query distanceMethod : String) : SearchRequest :=
  ⟨query, .object [], none, 1, 1, 50, distanceMethod⟩

/-- Of a blank request, one with an unknown distance method and two others, in a row, the two others
reach an embedder of two dimensions, and then a query engine that fails. -/
theorem searchAll_calls_failing :
    ∃ (p p' : Parameters) (after : Canned.Calls),
      (searchAll ⟨10, 100, false, .inCore⟩ (Canned.embedder ⟨2, .ok [0, 1], []⟩)
        (Canned.engine ⟨[], ⟨[], []⟩, some "timeout"⟩)
        [plainRequest " " "cosine", plainRequest "one" "cosine",
          plainRequest "two" "manhattan", plainRequest " three " "euclidean"]).run .none =
        ([.error .missingQuery,
          .error (.collaborator .queryEngine "Query engine error: timeout" p.filters),
          .error (.unknownDistanceMethod "manhattan"),
          .error (.collaborator .queryEngine "Query engine error: timeout" p'.filters)], after) ∧
      after.embedder = 2 ∧
      after.engine.reverse = [p.engineRequest [0, 1], p'.engineRequest [0, 1]] ∧
      p.query = "one" ∧ p'.query = "three" := by
  obtain ⟨-, hsequence⟩ := searchAll_calls ⟨10, 100, false, .inCore⟩ ⟨2, .ok [0, 1], []⟩
    ⟨[], ⟨[], []⟩, some "timeout"⟩
  obtain ⟨after, hrun, -, hembedder, hengine⟩ := hsequence rfl
    [plainRequest " " "cosine", plainRequest "one" "cosine",
      plainRequest "two" "manhattan", plainRequest " three " "euclidean"] .none
  exact ⟨_, _, after, hrun, hembedder, hengine, rfl, rfl⟩

end SearchGateway
