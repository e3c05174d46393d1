import SearchGateway.Text.CodePoints

/-!
# Percent escapes

A byte that has no place in a part of an address is written as a percent sign and two hexadecimal
digits in upper case (`escapeAll`). Resolving escapes gives bytes, which need not be a text
(`unescaped?`).
-/

namespace SearchGateway.Wire

/-- Two hexadecimal digits in upper case. -/
def hexByte (b : UInt8) : String :=
  let digits := Nat.toDigits 16 (b.toNat / 16) ++ Nat.toDigits 16 (b.toNat % 16)
  String.ofList (digits.map Char.toUpper)

/-- A character as the escapes of its bytes. -/
def escaped (c : Char) : String :=
  c.toString.toUTF8.toList.foldl (fun out b => out ++ "%" ++ hexByte b) ""

/-- Escapes the controls, the characters beyond ASCII and the given ones. -/
def escapeAll (reserved : String) (cs : List Char) : String :=
  cs.foldl (fun out c =>
    out ++
      if c.toNat < 0x20 ∨ 0x7E < c.toNat ∨ reserved.toList.contains c then escaped c
      else c.toString) ""

/-- The bytes of a text with its escapes resolved; a percent sign that starts no escape stands for
itself. -/
def unescapedBytes : List Char → List UInt8
  | [] => []
  | '%' :: a :: b :: rest =>
    match Text.hexDigit? a, Text.hexDigit? b with
    | some high, some low => .ofNat (16 * high + low) :: unescapedBytes rest
    | _, _ => '%'.toUInt8 :: unescapedBytes (a :: b :: rest)
  | c :: rest => String.utf8EncodeChar c ++ unescapedBytes rest
termination_by cs => cs.length

/-- A text with its escapes resolved, if it is a text then. -/
def unescaped? (cs : List Char) : Option (List Char) :=
  (String.fromUTF8? ⟨(unescapedBytes cs).toArray⟩).map String.toList

end SearchGateway.Wire
