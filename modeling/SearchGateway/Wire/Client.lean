import SearchGateway.Json.Fault
import SearchGateway.Wire.Status
import SearchGateway.Wire.Url

/-!
# Requests to collaborators

Every request posts a JSON value. Before anything is sent, its URL and its header fields are checked
(`Request.target`); a `Client` then delivers it, or fails to.
-/

namespace SearchGateway.Wire

/-- A request that posts a JSON value. -/
structure Request where
  /-- The URL as it was composed, before it is read. -/
  url : String
  /-- Header fields by name; the content type goes without saying. -/
  headers : List (String × String)
  body : Json

/-- The header field that carries a bearer token. -/
def bearer (token : String) : String × String := ("authorization", "Bearer " ++ token)

/-- An answer to a request. -/
structure Reply where
  status : Status
  text : String

/-- Why a request has no answer. -/
inductive SendFault where
  /-- The URL cannot be read, or a header field cannot be written. -/
  | malformed
  /-- The URL names nothing that a request can be sent to. -/
  | unsupported (url : Url)
  /-- Nobody answers at the URL. -/
  | unreachable (url : Url)

/-- The message of a fault. -/
def SendFault.message : SendFault → String
  | malformed => "builder error"
  | unsupported url => "builder error for url (" ++ url.text ++ ")"
  | unreachable url => "error sending request for url (" ++ url.text ++ ")"

/-- Whether a text can be the value of a header field: it holds no control but the tab. -/
def isHeaderValue (s : String) : Bool :=
  s.toList.all fun c => c == '\t' || (0x20 ≤ c.toNat && c.toNat != 0x7F)

/-- Whether an escaped part of a URL is a text. -/
def isText (escaped : String) : Bool := (unescaped? escaped.toList).isSome

/-- A URL without its user, which a request names in a header field of its own. A user whose name is
no text stays, and so does one without a name whose password is none. -/
def Url.withoutUser (u : Url) : Url :=
  match u.user with
  | none => u
  | some user =>
    if isText user.name && (!user.name.isEmpty || user.password.any isText) then
      { u with user := none }
    else u

/-- The greatest length of a URL that can be sent. -/
def urlLimit : Nat := 65534

/-- Whether a URL can be sent: hosts have characters that its line in a request cannot hold. -/
def Url.isSendable (u : Url) : Bool :=
  u.isWeb && !(u.host.getD "").toList.any ("\"`\x7b\x7d".toList.contains ·) &&
    u.text.utf8ByteSize ≤ urlLimit

/-- The URL that a request goes to. -/
def Request.target (r : Request) : Except SendFault Url :=
  match (Url.ofText? r.url).map Url.withoutUser with
  | none => .error .malformed
  | some url =>
    if !url.hasHost then .error (.unsupported url)
    else if !r.headers.all fun field => isHeaderValue field.2 then .error .malformed
    else if !url.isSendable then .error (.unsupported url)
    else .ok url

/-- A way to deliver requests. -/
structure Client (m : Type → Type) where
  /-- Delivers a request to its target. -/
  deliver : Url → Request → m (Except SendFault Reply)

/-- Checks a request, and delivers it if it can be sent. -/
def Client.post {m : Type → Type} [Monad m] (client : Client m) (r : Request) :
    m (Except SendFault Reply) :=
  match r.target with
  | .error f => return .error f
  | .ok url => client.deliver url r

end SearchGateway.Wire
