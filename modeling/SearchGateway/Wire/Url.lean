import SearchGateway.Wire.Host

/-!
# URLs

Reading a text as a URL takes the white space and the controls off its ends, drops tabs and line
ends inside, and brings every part to a normal text: the scheme and the host in lower case, the port
left out where the scheme implies it, dot segments resolved, and characters that have no place in a
part as percent escapes. A text without a scheme is no URL, as there is nothing that it could be
relative to. A segment of a path that names a drive is never left by a dot segment.
-/

namespace SearchGateway.Wire

open Text (numeral? splitOnAny)

/-- The user part of an authority, with its escapes. -/
structure User where
  name : String
  password : Option String

/-- A URL in its parts. -/
structure Url where
  scheme : String
  user : Option User
  /-- None where the URL has no authority; empty where the authority names no host. -/
  host : Option String
  /-- None where the scheme implies the port. -/
  port : Option Nat
  path : String
  query : Option String
  fragment : Option String

namespace Url

/-- Schemes whose URLs always have an authority and a path, and the port that each implies. -/
def specialPorts : List (String × Nat) :=
  [("http", 80), ("https", 443), ("ws", 80), ("wss", 443), ("ftp", 21)]

/-- Whether the authority names a host. -/
def hasHost (u : Url) : Bool := u.host.any (!·.isEmpty)

/-- Whether the URL names a resource that requests can be sent to. -/
def isWeb (u : Url) : Bool := u.scheme == "http" || u.scheme == "https"

/-- The text of an optional part behind its mark. -/
def marked (mark : String) : Option String → String
  | some s => mark ++ s
  | none => ""

/-- The host and the port. -/
def authority (u : Url) : String :=
  u.host.getD "" ++ marked ":" (u.port.map toString)

/-- The text of the user part, up to the host. -/
def userText (u : Url) : String :=
  match u.user with
  | none => ""
  | some user => user.name ++ marked ":" user.password ++ "@"

/-- What stands before the path: the authority, or a segment that keeps a path which starts with two
slashes from being read as one. -/
def beforePath (u : Url) : String :=
  if u.host.isSome then "//" ++ u.userText ++ u.authority
  else if u.path.startsWith "//" then "/."
  else ""

/-- The normal text of a URL. -/
def text (u : Url) : String :=
  u.scheme ++ ":" ++ u.beforePath ++ u.path ++ marked "?" u.query ++ marked "#" u.fragment

/-! ## What is escaped -/

/-- What is escaped in a path. -/
def pathReserved : String := " \"#<>?`\x7b\x7d"

/-- What is escaped in a fragment. -/
def fragmentReserved : String := " \"<>`"

/-- What is escaped in a query. -/
def queryReserved (special : Bool) : String := if special then " \"#<>'" else " \"#<>"

/-- What is escaped in a user part. -/
def userReserved : String := pathReserved ++ "/:;=@[\\]^|"

/-! ## Paths -/

/-- A segment that stands for the place itself. -/
def isSingleDot (segment : List Char) : Bool :=
  let s := String.ofList (segment.map Char.toLower)
  s == "." || s == "%2e"

/-- A segment that stands for the place above. -/
def isDoubleDot (segment : List Char) : Bool :=
  let s := String.ofList (segment.map Char.toLower)
  s == ".." || s == ".%2e" || s == "%2e." || s == "%2e%2e"

/-- A segment that names a drive: a letter and a colon or a bar, up to a backslash. -/
def namesDrive (segment : List Char) : Bool :=
  match segment with
  | [letter, mark] => letter.isAlpha && (mark == ':' || mark == '|')
  | letter :: mark :: '\\' :: _ => letter.isAlpha && (mark == ':' || mark == '|')
  | _ => false

/-- Leaves the last segment, unless it names a drive. -/
def leave : List (List Char) → List (List Char)
  | [] => []
  | segment :: before => if namesDrive segment then segment :: before else before

/-- The drive that a segment names, with a colon. -/
def drive? (segment : List Char) : Option (List Char) :=
  match segment with
  | [letter, _] => if namesDrive segment then some [letter, ':'] else none
  | _ => none

/-- Resolves the dot segments of a path, with the segments before it in reverse. A dot segment at
the end leaves an empty one. A path of files may start with a drive. -/
def resolve (ofFiles : Bool) (before : List (List Char)) : List (List Char) → List (List Char)
  | [] => before.reverse
  | segment :: rest =>
    let settled (before : List (List Char)) := if rest.isEmpty then [] :: before else before
    if isDoubleDot segment then resolve ofFiles (settled (leave before)) rest
    else if isSingleDot segment then resolve ofFiles (settled before) rest
    else
      match if ofFiles && before.isEmpty then drive? segment else none with
      | some drive => resolve ofFiles (drive :: before) rest
      | none => resolve ofFiles (segment :: before) rest

/-- The text of a path of resolved segments. -/
def pathText (segments : List (List Char)) : String :=
  "/" ++ "/".intercalate (segments.map (escapeAll pathReserved))

/-- A path behind its first slash. -/
def absolutePath (special : Bool) (cs : List Char) : String :=
  pathText (resolve false [] (splitOnAny (fun c => c == '/' || (special && c == '\\')) cs))

/-! ## Reading -/

/-- A text without blanks and controls at its ends and without tabs and line ends. -/
def cleaned (s : String) : List Char :=
  let atEnds (c : Char) : Bool := c.toNat ≤ 0x20
  let inner := ((s.toList.dropWhile atEnds).reverse.dropWhile atEnds).reverse
  inner.filter fun c => !(c == '\t' || c == '\n' || c == '\r')

/-- The scheme in lower case, and what follows its colon. -/
def scheme? (cs : List Char) : Option (String × List Char) :=
  let (name, rest) := cs.span fun c => c.isAlphanum || c == '+' || c == '-' || c == '.'
  match name, rest with
  | first :: _, ':' :: rest =>
    if first.isAlpha then some (String.ofList (name.map Char.toLower), rest) else none
  | _, _ => none

/-- Splits at the first character of a kind; the second part starts with it. -/
def before (stop : Char → Bool) (cs : List Char) : List Char × List Char :=
  cs.span fun c => !stop c

/-- The user part of an authority, up to its last `@`, and the rest. -/
def splitUser (cs : List Char) : Option (List Char) × List Char :=
  let host := (cs.reverse.takeWhile (· != '@')).reverse
  if host.length = cs.length then (none, cs)
  else (some (cs.take (cs.length - host.length - 1)), host)

/-- The user of its text, unless neither name nor password is given. -/
def user? (cs : List Char) : Option User :=
  let (name, rest) := before (· == ':') cs
  let password := rest.drop 1
  if name.isEmpty ∧ password.isEmpty then none
  else
    some
      { name := escapeAll userReserved name
        password := if password.isEmpty then none else some (escapeAll userReserved password) }

/-- Host and port of an authority: a colon between brackets belongs to the host. -/
def splitPort (inBrackets : Bool) : List Char → List Char × Option (List Char)
  | [] => ([], none)
  | c :: cs =>
    if c = ':' ∧ !inBrackets then ([], some cs)
    else
      let (host, port) := splitPort (c == '[' || (inBrackets && c != ']')) cs
      (c :: host, port)

/-- The port of its digits, unless the scheme implies it, and what follows them: nothing, or a
backslash, with which a path starts. -/
def port? (implied : Option Nat) : Option (List Char) → Option (Option Nat × List Char)
  | none => some (none, [])
  | some cs => do
    let (digits, rest) := cs.span Char.isDigit
    let n ← numeral? 10 digits
    if UInt16.size ≤ n ∨ (rest.head?.any (· != '\\')) then none
    else some (if digits.isEmpty ∨ some n = implied then none else some n, rest)

/-- Query and fragment of the end of a URL. -/
def ending (special : Bool) (cs : List Char) : Option String × Option String :=
  let (query, fragment) := before (· == '#') cs
  (match query with
    | [] => none
    | _ :: q => some (escapeAll (queryReserved special) q),
    match fragment with
    | [] => none
    | _ :: f => some (escapeAll fragmentReserved f))

/-- The host of a scheme that says nothing about hosts. -/
def plainHost? (cs : List Char) : Option String :=
  match cs with
  | '[' :: _ => host? cs
  | _ =>
    if cs.any fun c => "\x00\t\n\r #/:<>?@[\\]^|".toList.contains c then none
    else some (escapeAll "" cs)

/-- A URL with an authority, behind its slashes. An authority with a user or a port names a host. -/
def ofAuthority? (scheme : String) (implied : Option Nat) (cs : List Char) : Option Url := do
  let special := implied.isSome
  let isSlash (c : Char) : Bool := c == '/' || (special && c == '\\')
  let (authority, rest) := before (fun c => isSlash c || c == '?' || c == '#') cs
  let (userText, location) := splitUser authority
  if userText = some [] ∧ location.isEmpty ∧ !rest.isEmpty then none
  let user := userText.bind user?
  let (hostText, portText) := splitPort false location
  let host ← if special then host? hostText else plainHost? hostText
  if host.isEmpty ∧ (portText.isSome ∨ user.isSome) then none
  let (port, pathStart) ← port? implied portText
  let (path, rest) := before (fun c => c == '?' || c == '#') (pathStart ++ rest)
  let (query, fragment) := ending special rest
  return {
    scheme, user, host := some host, port, query, fragment
    path :=
      if path.isEmpty ∧ !special then ""
      else absolutePath special (if path.head?.any isSlash then path.drop 1 else path) }

/-- A URL without an authority. -/
def withoutAuthority (scheme : String) (cs : List Char) : Url :=
  let (path, rest) := before (fun c => c == '?' || c == '#') cs
  let (query, fragment) := ending false rest
  { scheme, user := none, host := none, port := none, query, fragment
    path := match path with
      | '/' :: path => absolutePath false path
      | path => escapeAll "" path }

/-- A slash, or a backslash, which counts as one in most schemes. -/
def isAnySlash (c : Char) : Bool := c == '/' || c == '\\'

/-- A path without the slash that it starts with. -/
def behindSlash (path : List Char) : List Char :=
  if path.head?.any isAnySlash then path.drop 1 else path

/-- A URL of files on a host. Slashes at the start of a path count once, and a path that starts with
a drive is one on the local host, which has no name. -/
def ofPath (host : String) (cs : List Char) : Url :=
  let (path, rest) := before (fun c => c == '?' || c == '#') cs
  let (query, fragment) := ending true rest
  let segments := resolve true [] (splitOnAny isAnySlash path)
  { scheme := "file", user := none, port := none, query, fragment
    host := some (if (segments.head?.bind drive?).isSome then "" else host)
    path := pathText (segments.dropWhile (·.isEmpty)) }

/-- A URL of files, behind the two slashes that a host follows; the local host has no name. -/
def ofFileHost? (cs : List Char) : Option Url :=
  let (name, path) := before (fun c => isAnySlash c || c == '?' || c == '#') cs
  if name.isEmpty ∨ (drive? name).isSome then some (ofPath "" cs)
  else
    (host? name).map fun host =>
      if host = "localhost" then ofPath "" path else ofPath host (behindSlash path)

/-- A URL of the scheme `file`: without slashes before it a path starts at the root. -/
def ofFile? (cs : List Char) : Option Url :=
  match cs with
  | a :: b :: rest =>
    if isAnySlash a && isAnySlash b then ofFileHost? rest else some (ofPath "" (behindSlash cs))
  | _ => some (ofPath "" (behindSlash cs))

/-- Reads a URL. -/
def ofText? (s : String) : Option Url := do
  let (scheme, rest) ← scheme? (cleaned s)
  match specialPorts.lookup scheme with
  | some implied =>
    ofAuthority? scheme (some implied) (rest.dropWhile isAnySlash)
  | none =>
    if scheme = "file" then ofFile? rest
    else
      match rest with
      | '/' :: '/' :: rest => ofAuthority? scheme none rest
      | rest => return withoutAuthority scheme rest

end Url

end SearchGateway.Wire
