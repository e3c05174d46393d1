import SearchGateway.Wire.Client

/-!
# A network with scripted replies

Listeners answer at fixed addresses from a list of replies, one a request, the last one over and
over; a listener without replies answers with an empty list. Where nobody listens, a request is
unreachable. Every request that arrives is recorded.
-/

namespace SearchGateway.Wire

/-- Who answers at an address, and with what. -/
structure Listener where
  name : String
  authority : String
  /-- The replies still to come. -/
  replies : List Reply

/-- A request that arrived. -/
structure Received where
  /-- The name of the listener. -/
  listener : String
  path : String
  request : Request

/-- The listeners, and the requests that arrived so far, the latest one first. -/
structure Traffic where
  listeners : List Listener
  received : List Received

/-- A network on which nothing arrived yet. -/
def Traffic.of (listeners : List Listener) : Traffic := ⟨listeners, []⟩

/-- The answer of a listener whose script is empty. -/
def Reply.emptyList : Reply := ⟨⟨200⟩, "[]"⟩

/-- What a listener answers next. -/
def Listener.next (l : Listener) : Reply := l.replies.headD .emptyList

/-- A listener after an answer: the last reply of the script stays. -/
def Listener.advance (l : Listener) : Listener :=
  match l.replies with
  | _ :: r :: rest => { l with replies := r :: rest }
  | _ => l

/-- A reply as it arrives: some statuses go without a body. -/
def Reply.received (r : Reply) : Reply := if r.status.hasBody then r else { r with text := "" }

/-- Delivers to the first listener at an address: its reply, and the listeners afterwards. -/
def deliverTo? (authority : String) : List Listener → Option (Listener × List Listener)
  | [] => none
  | l :: ls =>
    if l.authority = authority then some (l, l.advance :: ls)
    else (deliverTo? authority ls).map fun (hit, rest) => (hit, l :: rest)

/-- A header field as it arrives, without blanks at its ends. -/
def fieldValue (s : String) : String :=
  let isPad (c : Char) : Bool := c == ' ' || c == '\t'
  .ofList ((s.toList.dropWhile isPad).reverse.dropWhile isPad).reverse

/-- The value of a header field of a request that arrived. -/
def Received.header? (r : Received) (name : String) : Option String :=
  (r.request.headers.lookup name).map fieldValue

/-- The client of a scripted network. -/
def scripted : Client (StateM Traffic) where
  deliver url r := do
    let traffic ← get
    match if url.scheme == "http" then deliverTo? url.authority traffic.listeners else none with
    | none => return .error (.unreachable url)
    | some (l, listeners) =>
      set { listeners, received := ⟨l.name, url.path, r⟩ :: traffic.received : Traffic }
      return .ok l.next.received

end SearchGateway.Wire
