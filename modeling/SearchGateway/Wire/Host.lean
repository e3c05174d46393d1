import SearchGateway.Domain.Name
import SearchGateway.Text.Parts
import SearchGateway.Wire.Percent

/-!
# Hosts of a URL

A host is a domain name, an IPv4 address or an IPv6 address between brackets, and is kept as its
normal text: a name in ASCII and in lower case, an address in its shortest form. A domain that ends
in a number has to be an IPv4 address, in any of the spellings that count as one.
-/

namespace SearchGateway.Wire

open Text (numeral? splitOnAny)

/-! ## IPv4 addresses -/

/-- A part of an IPv4 address: hexadecimal behind `0x`, octal behind another zero, else decimal. -/
def addressPart? : List Char → Option Nat
  | [] => none
  | '0' :: 'x' :: digits | '0' :: 'X' :: digits => numeral? 16 digits
  | '0' :: c :: digits => numeral? 8 (c :: digits)
  | digits => numeral? 10 digits

/-- The parts of a domain between its points, without the empty part behind a last point. -/
def domainLabels (cs : List Char) : List (List Char) :=
  let labels := splitOnAny (· == '.') cs
  if labels.getLast? = some [] ∧ 1 < labels.length then labels.dropLast else labels

/-- Whether the last part of a domain is a number, so that the domain has to be an address. -/
def endsInNumber (labels : List (List Char)) : Bool :=
  match labels.getLast? with
  | none => false
  | some last => (!last.isEmpty && last.all (·.isDigit)) || (addressPart? last).isSome

/-- The address of up to four parts: every part but the last is one byte, and the last one fills
the bytes that are left. -/
def address? : List Nat → Option Nat
  | [] => none
  | [n] => some n
  | parts =>
    let leading := parts.dropLast
    let last := parts.getLast?.getD 0
    if parts.length ≤ 4 ∧ leading.all (· < 256) ∧ last < Nat.pow 256 (5 - parts.length) then
      some (leading.zipIdx.foldl (fun sum (part, i) => sum + part * Nat.pow 256 (3 - i)) last)
    else none

/-- Four bytes in decimal. -/
def dotted (address : Nat) : String :=
  ".".intercalate ([3, 2, 1, 0].map fun i => toString (address / Nat.pow 256 i % 256))

/-- An IPv4 address in its normal text. -/
def ipv4? (labels : List (List Char)) : Option String := do
  let address ← address? (← labels.mapM addressPart?)
  if address < UInt32.size then some (dotted address) else none

/-! ## IPv6 addresses -/

/-- A group of an IPv6 address: one to four hexadecimal digits. -/
def group? (cs : List Char) : Option Nat :=
  if cs.isEmpty ∨ 4 < cs.length then none else numeral? 16 cs

/-- A decimal byte without needless zeros. -/
def decimalByte? (cs : List Char) : Option Nat :=
  match cs with
  | [] => none
  | '0' :: _ :: _ => none
  | _ => (numeral? 10 cs).filter (· < 256)

/-- The groups of a part of an IPv6 address; where it may, the last one is an IPv4 address, which
stands for two. -/
def groups? (mayEndDotted : Bool) (cs : List Char) : Option (List Nat) :=
  if cs.isEmpty then some []
  else
    let parts := splitOnAny (· == ':') cs
    let last := parts.getLast?.getD []
    if mayEndDotted ∧ last.contains '.' then do
      let leading ← parts.dropLast.mapM group?
      match ← (splitOnAny (· == '.') last).mapM decimalByte? with
      | [a, b, c, d] => some (leading ++ [a * 256 + b, c * 256 + d])
      | _ => none
    else parts.mapM group?

/-- Splits at the first `::`. -/
def splitAtGap : List Char → Option (List Char × List Char)
  | ':' :: ':' :: rest => some ([], rest)
  | c :: rest => (splitAtGap rest).map fun (before, after) => (c :: before, after)
  | [] => none

/-- The eight groups of an IPv6 address. -/
def ipv6Groups? (cs : List Char) : Option (List Nat) :=
  match splitAtGap cs with
  | none => (groups? true cs).filter (·.length == 8)
  | some (before, after) => do
    let left ← groups? false before
    let right ← groups? true after
    if left.length + right.length < 8 then
      some (left ++ List.replicate (8 - left.length - right.length) 0 ++ right)
    else none

/-- The number of zeros at the start of a list. -/
def leadingZeros (groups : List Nat) : Nat := (groups.takeWhile (· == 0)).length

/-- The longest run of zeros, the first one of several: where it starts, and its length. -/
def longestGap : List Nat → Nat × Nat
  | [] => (0, 0)
  | g :: gs =>
    let here := leadingZeros (g :: gs)
    let (start, length) := longestGap gs
    if length ≤ here then (0, here) else (start + 1, length)

/-- Groups in lower case, separated by colons. -/
def colonSeparated (groups : List Nat) : String :=
  ":".intercalate (groups.map fun g => String.ofList (Nat.toDigits 16 g))

/-- The normal text of eight groups: the longest run of two or more zeros is left out. -/
def ipv6Text (groups : List Nat) : String :=
  let (start, length) := longestGap groups
  if length < 2 then colonSeparated groups
  else
    colonSeparated (groups.take start) ++ "::" ++ colonSeparated (groups.drop (start + length))

/-! ## Domains -/

/-- Whether a character can stand in a domain name. -/
def isDomainChar (c : Char) : Bool :=
  0x20 < c.toNat && c.toNat < 0x7F && !"#/:<>?@[\\]^|%".toList.contains c

/-- The normal text of a domain, which may be written with escapes. -/
def domain? (cs : List Char) : Option (List Char) := do
  let domain ← Domain.asciiName? (← unescaped? cs)
  if domain.isEmpty ∨ !domain.all isDomainChar then none else some domain

/-- The normal text of a host of a scheme that addresses hosts by name. -/
def host? (cs : List Char) : Option String :=
  match cs with
  | '[' :: rest =>
    if rest.getLast? = some ']' then
      (ipv6Groups? rest.dropLast).map fun groups => "[" ++ ipv6Text groups ++ "]"
    else none
  | _ => do
    let domain ← domain? cs
    let labels := domainLabels domain
    if endsInNumber labels then ipv4? labels else some (String.ofList domain)

end SearchGateway.Wire
