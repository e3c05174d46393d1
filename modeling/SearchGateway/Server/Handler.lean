import SearchGateway.Search.Service
import SearchGateway.Server.Origins
import SearchGateway.Server.Problem
import SearchGateway.Server.RequestBody

/-!
# Answering requests

A request is routed by its path, then by its method. Searches are posted to `/search` or `/`, and
`/health` says that the server is up. `OPTIONS` is answered for every path, with nothing but
the methods that it serves. A collaborator may break off without a result, which the client learns
as an internal problem.
-/

namespace SearchGateway

/-- A server: who may read its responses, what it tells of failures, and how it searches. -/
structure Server (m : Type → Type) where
  origins : Server.Origins
  exposeErrorDetails : Bool
  /-- The answer to a search; none where a collaborator broke off. -/
  answer : SearchRequest → OptionT m (Except Failure Answer)

namespace Server

/-- The method of a request. -/
inductive Method where
  | get
  | head
  | post
  | options
  | other
  deriving DecidableEq, Repr

/-- The method of a name; case matters. -/
def Method.ofName (s : String) : Method :=
  if s = "GET" then get
  else if s = "HEAD" then head
  else if s = "POST" then post
  else if s = "OPTIONS" then options
  else other

/-- A request. -/
structure Request where
  method : Method
  /-- Path and query, an address with both, or an authority alone. -/
  target : String
  origin : Option String
  body : Bytes

/-- A response; without a body where there is none. -/
structure Response where
  status : Nat
  headers : List (String × String)
  body : Option Json

/-- What is served at a path. -/
inductive Route where
  | search
  | health
  | unknown
  deriving DecidableEq, Repr

/-- A target behind its scheme and the slashes that follow it, if it names one. -/
def behindScheme? (target : List Char) : Option (List Char) :=
  let isSchemeChar (c : Char) : Bool := c.isAlphanum || c == '+' || c == '-' || c == '.'
  match target.dropWhile isSchemeChar with
  | ':' :: '/' :: '/' :: rest => some rest
  | _ => none

/-- The path of a target, without its query. A target with a scheme names its authority first, and
its path is the root where none follows; a target that is an authority alone has no path. -/
def pathOf (target : String) : String :=
  let isMark (c : Char) : Bool := c == '?' || c == '#'
  let untilMark (cs : List Char) : String := String.ofList (cs.takeWhile fun c => !isMark c)
  match target.toList with
  | '/' :: rest => untilMark ('/' :: rest)
  | ['*'] => "*"
  | cs =>
    match behindScheme? cs with
    | none => ""
    | some rest =>
      match untilMark (rest.dropWhile fun c => c != '/' && !isMark c) with
      | "" => "/"
      | path => path

/-- The route of a path. -/
def Route.ofPath (path : String) : Route :=
  if path = "/search" ∨ path = "/" then search
  else if path = "/health" then health
  else unknown

/-- The methods that a route serves, as a header field lists them. -/
def Route.methods : Route → Option String
  | search => some "POST"
  | health => some "GET,HEAD"
  | unknown => none

/-- The header field that lists the methods of a route. -/
def Route.allow (r : Route) : List (String × String) :=
  r.methods.toList.map fun methods => ("allow", methods)

/-- A response that carries a value. -/
def Response.json (status : Nat) (body : Json) : Response :=
  ⟨status, [("content-type", "application/json")], some body⟩

/-- A response that tells a problem. -/
def Response.problem (p : Problem) : Response := .json p.status.code p.toJson

/-- Adds header fields. -/
def Response.withHeaders (r : Response) (headers : List (String × String)) : Response :=
  { r with headers := r.headers ++ headers }

/-- The greatest length of a body. -/
def bodyLimit : Nat := 2 * 1024 * 1024

/-- The request that a body makes, or the problem with it. -/
def requestOf (body : Bytes) : Except Problem SearchRequest :=
  if bodyLimit < body.length then .error .payloadTooLarge
  else
    match RequestBody.read body with
    | .error f => .error (.invalidBody (f.message body))
    | .ok b => .ok b.toRequest

/-- The response that tells how a search ended. -/
def Response.ofSearch (expose : Bool) : Option (Except Failure Answer) → Response
  | none => .problem .internal
  | some (.error f) => .problem ((Problem.ofFailure f).redacted expose)
  | some (.ok a) => .json 200 a.toJson

section
variable {m : Type → Type} [Monad m]

/-- Answers a posted search. -/
def answerSearch (s : Server m) (body : Bytes) : m Response :=
  match requestOf body with
  | .error p => return .problem p
  | .ok r => return .ofSearch s.exposeErrorDetails (← (s.answer r).run)

/-- The response that says that the server is up; without its body for `HEAD`. -/
def Response.health (method : Method) : Response :=
  let full := Response.json 200 (.object [("status", .string "ok")])
  if method = .head then { full with body := none } else full

/-- Answers a request by its route. -/
def serve (s : Server m) (route : Route) (r : Request) : m Response :=
  match route, r.method with
  | .search, .post => s.answerSearch r.body
  | .health, .get | .health, .head => return .health r.method
  | .unknown, _ => return .problem .notFound
  | _, _ => return (Response.problem .methodNotAllowed).withHeaders route.allow

/-- The answer to `OPTIONS`, which names methods and header fields that pages may use. -/
def Response.options (route : Route) : Response :=
  ⟨200,
    [("access-control-allow-methods", "GET,POST,OPTIONS"), ("access-control-allow-headers", "*")] ++
      route.allow, none⟩

/-- The header fields that say who may read a response. -/
def Origins.headers (origins : Origins) (origin : Option String) : List (String × String) :=
  ("vary", "origin, access-control-request-method, access-control-request-headers") ::
    (origins.grant? origin).toList.map fun granted => ("access-control-allow-origin", granted)

/-- Answers a request. -/
def handle (s : Server m) (r : Request) : m Response := do
  let route := Route.ofPath (pathOf r.target)
  let response ← if r.method = .options then pure (Response.options route) else s.serve route r
  return response.withHeaders (s.origins.headers r.origin)

end

end Server

end SearchGateway
