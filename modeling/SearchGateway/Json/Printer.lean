import SearchGateway.Json.Basic
import SearchGateway.Decimal.Notation

/-!
# Compact JSON texts

No blank stands between tokens; a string escapes the quote, the backslash and the controls below
U+0020, and shows every other character as it is.
-/

namespace SearchGateway.Json

/-- Four hexadecimal digits. -/
def hex4 (n : Nat) : String :=
  let digits := Nat.toDigits 16 n
  String.ofList (List.replicate (4 - digits.length) '0' ++ digits)

/-- One character inside a string. -/
def stringChar (c : Char) : String :=
  match c with
  | '"' => "\\\""
  | '\\' => "\\\\"
  | '\x08' => "\\b"
  | '\x0c' => "\\f"
  | '\n' => "\\n"
  | '\r' => "\\r"
  | '\t' => "\\t"
  | c => if c.toNat < 0x20 then "\\u" ++ hex4 c.toNat else c.toString

/-- Appends a string in quotes. -/
def pushString (out : String) (s : String) : String :=
  s.foldl (fun out c => out ++ stringChar c) (out ++ "\"") ++ "\""

/-- The text of a double; one that is not finite has no text of its own. -/
def floatText (x : Float) : String :=
  if x.isFinite then Layout.number.floatText x else "null"

mutual

/-- Appends the text of a value. -/
def push (out : String) : Json → String
  | null => out ++ "null"
  | bool true => out ++ "true"
  | bool false => out ++ "false"
  | int n => out ++ toString n
  | float x => out ++ floatText x
  | string s => pushString out s
  | array items => pushItems (out ++ "[") true items ++ "]"
  | object fields => pushFields (out ++ "\x7b") true fields ++ "\x7d"

/-- Appends the items of an array, with a comma before every item but the first. -/
def pushItems (out : String) (first : Bool) : List Json → String
  | [] => out
  | item :: rest => pushItems (push (if first then out else out ++ ",") item) false rest

/-- Appends the fields of an object, with a comma before every field but the first. -/
def pushFields (out : String) (first : Bool) : List (String × Json) → String
  | [] => out
  | (key, value) :: rest =>
    pushFields (push (pushString (if first then out else out ++ ",") key ++ ":") value) false rest

end

/-- The compact text of a value. -/
def compact (v : Json) : String := push "" v

end SearchGateway.Json
