import SearchGateway.Json.Row
import SearchGateway.Timestamp

/-!
# Documents

A stored document as rows carry it. An identifier keeps its kind: an integer never becomes a text.
-/

namespace SearchGateway

/-- The primary key of a document. -/
inductive DocumentId where
  | int (n : Int)
  | text (s : String)
  deriving DecidableEq, Repr

namespace DocumentId

/-- The identifier as text, without its kind. -/
def display : DocumentId → String
  | int n => toString n
  | text s => s

/-- Reads an identifier: a string, or an integer within 64 signed bits. -/
def ofJson? : Json → Option DocumentId
  | .int n => if Json.isSigned64 n then some (int n) else none
  | .string s => some (text s)
  | _ => none

/-- The identifier as a value. -/
def toJson : DocumentId → Json
  | int n => .int n
  | text s => .string s

end DocumentId

/-- A stored document. -/
structure Document where
  id : DocumentId
  content : Option String
  metadata : Json
  createdAt : Option Timestamp

namespace Document

/-- The columns of a document, in order. -/
def columns : List String := ["id", "content", "metadata", "created_at"]

/-- Reads the columns of a document from a look-up; all but the identifier may be absent. -/
def ofColumns? (column : String → Option Json) : Option Document := do
  let id ← (column "id").bind DocumentId.ofJson?
  let content ← Json.optional? Json.string? (column "content")
  let createdAt ←
    Json.optional? (fun v => v.string?.bind Timestamp.ofText?) (column "created_at")
  return { id, content, metadata := (column "metadata").getD .null, createdAt }

/-- Reads a document. -/
def ofJson? (v : Json) : Option Document := (v.row? columns 1).bind ofColumns?

/-- A point in time as a value. -/
def createdAtJson (d : Document) : Json := Json.ofOption (fun t => .string t.text) d.createdAt

/-- The document as a value. -/
def toJson (d : Document) : Json :=
  .object
    [("content", Json.ofOption .string d.content), ("created_at", d.createdAtJson),
      ("id", d.id.toJson), ("metadata", d.metadata)]

end Document

end SearchGateway
