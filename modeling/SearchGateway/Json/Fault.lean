import SearchGateway.Json.Printer
import SearchGateway.Text.Quoted

/-!
# Faults of a JSON text

What can be wrong with a JSON text that is read for a given shape, and where. A fault names its
cause (`Issue`) and the input that was left when it arose; line and column follow from that and the
whole input, so that no reader has to count.
-/

namespace SearchGateway

/-- The bytes of a text, or what is left of them. -/
abbrev Bytes := List UInt8

/-- The bytes of a text. -/
def Bytes.ofText (s : String) : Bytes := s.toUTF8.toList

namespace Json

/-- What stood in the text where something else was expected. -/
inductive Found where
  | null
  | bool (b : Bool)
  | int (n : Int)
  | float (x : Float)
  | string (s : String)
  | sequence
  | map

/-- The words for it in a message. -/
def Found.describe : Found → String
  | null => "null"
  | bool b => s!"boolean `{b}`"
  | int n => s!"integer `{n}`"
  | float x => s!"floating point `{floatText x}`"
  | string s => "string " ++ Text.quoted s
  | sequence => "sequence"
  | map => "map"

/-- What is wrong with a text. -/
inductive Issue where
  | eofValue
  | eofObject
  | eofList
  | eofString
  | expectedValue
  | expectedWord
  | expectedColon
  | expectedListEnd
  | expectedObjectEnd
  | keyNotString
  | trailingComma
  | trailingCharacters
  | invalidNumber
  | numberOutOfRange
  | invalidEscape
  | loneSurrogate
  | brokenSurrogatePair
  | illFormedUtf8
  | controlCharacter
  | tooDeep
  | duplicateField (name : String)
  | tooFewItems (count : Nat) (expected : String)
  | wrongType (found : Found) (expected : String)
  | wrongValue (found : Found) (expected : String)

/-- The message of an issue, without its place. -/
def Issue.describe : Issue → String
  | eofValue => "EOF while parsing a value"
  | eofObject => "EOF while parsing an object"
  | eofList => "EOF while parsing a list"
  | eofString => "EOF while parsing a string"
  | expectedValue => "expected value"
  | expectedWord => "expected ident"
  | expectedColon => "expected `:`"
  | expectedListEnd => "expected `,` or `]`"
  | expectedObjectEnd => "expected `,` or `\x7d`"
  | keyNotString => "key must be a string"
  | trailingComma => "trailing comma"
  | trailingCharacters => "trailing characters"
  | invalidNumber => "invalid number"
  | numberOutOfRange => "number out of range"
  | invalidEscape => "invalid escape"
  | loneSurrogate => "lone leading surrogate in hex escape"
  | brokenSurrogatePair => "unexpected end of hex escape"
  | illFormedUtf8 => "invalid unicode code point"
  | controlCharacter => "control character (\\u0000-\\u001F) found while parsing a string"
  | tooDeep => "recursion limit exceeded"
  | duplicateField name => s!"duplicate field `{name}`"
  | tooFewItems count expected => s!"invalid length {count}, expected {expected}"
  | wrongType found expected => s!"invalid type: {found.describe}, expected {expected}"
  | wrongValue found expected => s!"invalid value: {found.describe}, expected {expected}"

/-- An issue and the input that was left when it arose. -/
structure Fault where
  issue : Issue
  rest : Bytes

/-- A fault that counts the next byte as read. -/
def Fault.afterNext (issue : Issue) (rest : Bytes) : Fault := ⟨issue, rest.drop 1⟩

/-- Line and column behind the bytes read: lines count from one, and the column is the number of
bytes read of the last line. -/
def position (read : Bytes) : Nat × Nat :=
  let newline : UInt8 := 0x0A
  (1 + read.count newline, (read.reverse.takeWhile (· != newline)).length)

/-- The message of a fault of the text `whole`, with its place. -/
def Fault.message (f : Fault) (whole : Bytes) : String :=
  let (line, column) := position (whole.take (whole.length - f.rest.length))
  s!"{f.issue.describe} at line {line} column {column}"

end Json

end SearchGateway
