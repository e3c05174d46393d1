import SearchGateway.Search.Service

/-!
# Collaborators with canned answers

An embedder that answers with its vectors in turn, a query engine that always answers alike, and one
record of the calls that both got. Every call is recorded, whether it fails or not. They stand in
for the remote collaborators where nothing is to leave the process.
-/

namespace SearchGateway.Canned

/-- A call of a collaborator. -/
inductive Call where
  | embedder (query : String)
  | engine (request : EngineRequest)

namespace Call

/-- Whether the embedder was called. -/
def isEmbedder : Call → Bool
  | embedder _ => true
  | engine _ => false

/-- The request, where the query engine was called. -/
def request? : Call → Option EngineRequest
  | embedder _ => none
  | engine request => some request

end Call

/-- The calls so far, the latest one first. -/
structure Calls where
  log : List Call

namespace Calls

/-- No calls yet. -/
def none : Calls := ⟨[]⟩

/-- One more call. -/
def push (calls : Calls) (call : Call) : Calls := ⟨call :: calls.log⟩

/-- The number of calls of the embedder. -/
def embedder (calls : Calls) : Nat := calls.log.countP Call.isEmbedder

/-- The requests to the query engine, the latest one first. -/
def engine (calls : Calls) : List EngineRequest := calls.log.filterMap Call.request?

end Calls

/-- An embedder that answers with its vectors in turn, over and over, or always fails. -/
structure EmbedderData where
  dimensions : Nat
  /-- The first vector, or the words of every failure. -/
  answer : Except String (List Float32)
  /-- The vectors that follow the first one; none where all answers are to be alike. -/
  later : List (List Float32) := []

/-- The answer to a call that came after the given number of others. -/
def EmbedderData.answerAfter (data : EmbedderData) (calls : Nat) :
    Except String (List Float32) :=
  data.answer.map fun first =>
    let vectors := first :: data.later
    vectors.get ⟨calls % vectors.length, Nat.mod_lt calls (Nat.succ_pos data.later.length)⟩

/-- A query engine that answers with the same rows, or fails. -/
structure EngineData where
  results : List Match
  rankings : Rankings
  failure : Option String

/-- The embedder with the given answers. -/
def embedder (data : EmbedderData) : Embedder (StateM Calls) where
  dimensions := data.dimensions
  embed query := do
    let calls ← get
    set (calls.push (.embedder query))
    return (data.answerAfter calls.embedder).mapError .embedding

/-- Records a request, and answers it unless calls are to fail. -/
def answerWith {α : Type} (data : EngineData) (r : EngineRequest) (answer : α) :
    StateM Calls (Except Failure α) := do
  modify fun calls => calls.push (.engine r)
  match data.failure with
  | some text => return .error (.queryEngine text)
  | none => return .ok answer

/-- The query engine with the given answers. Of its matches it gives the first, as many as were
asked for. -/
def engine (data : EngineData) : QueryEngine (StateM Calls) where
  hybridSearch r := answerWith data r (data.results.take r.matchCount.toNat)
  candidates r := answerWith data r data.rankings

end SearchGateway.Canned
