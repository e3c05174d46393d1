import SearchGateway.Text.Unprintable

/-!
# Quoted texts

A text between double quotes as messages and diagnostic dumps show it: the quote and the backslash
are escaped, four controls have a letter of their own, every other character without a picture is
written by its number, and all else stands for itself.
-/

namespace SearchGateway.Text

/-- The number of a character between braces. -/
def numberEscape (c : Char) : String :=
  "\\u\x7b" ++ String.ofList (Nat.toDigits 16 c.toNat) ++ "\x7d"

/-- One character of a quoted text. -/
def quotedChar (c : Char) : String :=
  match c with
  | '"' => "\\\""
  | '\\' => "\\\\"
  | '\n' => "\\n"
  | '\r' => "\\r"
  | '\t' => "\\t"
  | '\x00' => "\\0"
  | c => if isUnprintable c then numberEscape c else c.toString

/-- The text between quotes. -/
def quoted (s : String) : String :=
  s.foldl (fun out c => out ++ quotedChar c) "\"" ++ "\""

/-- A list of quoted texts between brackets. -/
def quotedList (items : List String) : String :=
  "[" ++ ", ".intercalate (items.map quoted) ++ "]"

end SearchGateway.Text
