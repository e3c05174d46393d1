import SearchGateway.Decimal.Binary
import SearchGateway.Json.Printer

/-!
# Settings files

A settings file holds a value in compact JSON notation, and the ending of its name says in which
notation it is read. Most of those read JSON notation as it stands; in the ones that do not, a value
makes another table or none at all (`FileNotation.table?`). A file that is not there is looked for
under its name with each known ending added.
-/

namespace SearchGateway.Settings

/-- The notations of settings files. -/
inductive FileNotation where
  | yaml
  | json
  | json5
  | ron
  | toml
  | ini
  deriving DecidableEq, Repr

/-- The endings of names and the notation that each stands for. -/
def fileEndings : List (String × FileNotation) :=
  [("toml", .toml), ("json", .json), ("yaml", .yaml), ("yml", .yaml), ("ini", .ini), ("ron", .ron),
    ("json5", .json5)]

/-! ## Notations that read JSON notation -/

/-- A value as a file holds it: an integer beyond 64 signed bits is a double. -/
def fileScalar : Json → Json
  | .int n => if Json.isSigned64 n then .int n else .float (Decimal.floatOfInt n)
  | v => v

mutual

/-- A value with its scalars as a file holds them. -/
def fileValue : Json → Json
  | .array items => .array (fileItems items)
  | .object fields => .object (fileFields fields)
  | v => fileScalar v

/-- The items of a list as a file holds them. -/
def fileItems : List Json → List Json
  | [] => []
  | v :: vs => fileValue v :: fileItems vs

/-- The fields of a table as a file holds them. -/
def fileFields : List (String × Json) → List (String × Json)
  | [] => []
  | (k, v) :: rest => (k, fileValue v) :: fileFields rest

end

mutual

/-- Whether all scalars of a value, the keys of its tables among them, are of a kind. -/
def allScalars (p : Json → Bool) : Json → Bool
  | .array items => allItems p items
  | .object fields => allFields p fields
  | v => p v

/-- Whether all scalars of the items of a list are of a kind. -/
def allItems (p : Json → Bool) : List Json → Bool
  | [] => true
  | v :: vs => allScalars p v && allItems p vs

/-- Whether all scalars of the fields of a table are of a kind. -/
def allFields (p : Json → Bool) : List (String × Json) → Bool
  | [] => true
  | (k, v) :: rest => p (.string k) && allScalars p v && allFields p rest

end

/-- Whether an integer fits into 64 signed bits. -/
def isSmallScalar : Json → Bool
  | .int n => Json.isSigned64 n
  | _ => true

/-- Whether a character is written as itself or by an escape of a backslash and the same letter in
JSON and in RON. -/
def isSharedChar (c : Char) : Bool := 0x20 ≤ c.toNat || c == '\n' || c == '\r' || c == '\t'

/-- Whether a scalar is written alike in JSON and in RON. -/
def isSharedScalar : Json → Bool
  | .string s => s.toList.all isSharedChar
  | _ => true

/-! ## Notations with lines of their own -/

/-- Whether a text has a mark between a name and a value. -/
def hasAssignment (cs : List Char) : Bool := cs.any fun c => c == '=' || c == ':'

/-- Whether a text of one line is a header between brackets or an assignment. Neither names a
setting, as the names keep their quotes or braces. -/
def isIniLine (cs : List Char) : Bool :=
  match cs with
  | '[' :: rest =>
    match rest.dropWhile (· != ']') with
    | [] => false
    | _ :: rest => rest.isEmpty || hasAssignment rest
  | _ => hasAssignment cs

/-- The names that a scalar spells in a header: a string is one name, and a point divides any other
text. -/
def headerNames? (v : Json) : Option (List String) :=
  match v with
  | .string s => if s.contains '\x7f' then none else some [s]
  | .array _ | .object _ => none
  | v =>
    let text := v.compact
    if text.contains '+' then none else some (text.splitOn ".")

/-- A table that leads to a value by a path of names. -/
def tableAt (names : List String) (value : Json) : Json :=
  names.foldr (fun name inner => .object [(name, inner)]) value

/-- The table of a lone header: of a table, or of a list of tables where its brackets are
doubled. -/
def headerTable? : Json → Option Json
  | .array [.array [v]] => (headerNames? v).map (tableAt · (.array [.object []]))
  | .array [v] => (headerNames? v).map (tableAt · (.object []))
  | _ => none

/-! ## Reading -/

/-- The table of a file that holds a value, if the notation makes one of it. -/
def FileNotation.table? (form : FileNotation) (content : Json) :
    Option (List (String × Json)) :=
  let asItStands : Option (List (String × Json)) :=
    match content with
    | .object fields => some (fileFields fields)
    | _ => none
  match form with
  | yaml | json => asItStands
  | json5 => if allScalars isSmallScalar content then asItStands else none
  | ron => if allScalars isSharedScalar content then asItStands else none
  | toml => (headerTable? content).map Json.fields
  | ini => if isIniLine content.compact.toList then some [] else none

/-- The file of a name: as it stands, or else with one of the endings added. -/
def findFile? (files : List (String × Json)) (name : String) : Option (FileNotation × Json) :=
  match files.lookup name with
  | some content => some (.yaml, content)
  | none => fileEndings.findSome? fun (ending, read) =>
      (files.lookup (name ++ "." ++ ending)).map fun content => (read, content)

end SearchGateway.Settings
