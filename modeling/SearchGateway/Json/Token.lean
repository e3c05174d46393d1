import SearchGateway.Json.Fault

/-!
# Tokens of a JSON text

Words, numbers and strings, each as a function from the input to a value and the rest of the input.
Strings and numbers also have a form that only steps over them: it checks their syntax, but neither
the range of a number nor the code points of a string.
-/

namespace SearchGateway.Json

/-- Space, line feed, tab and carriage return. -/
def isBlankByte (b : UInt8) : Bool := b == 0x20 || b == 0x0A || b == 0x09 || b == 0x0D

/-- The input behind the blanks at its start. -/
def skipBlanks (rest : Bytes) : Bytes := rest.dropWhile isBlankByte

/-- A decimal digit. -/
def isDigitByte (b : UInt8) : Bool := 0x30 ≤ b && b ≤ 0x39

/-- The value of a decimal digit. -/
def digitValue (b : UInt8) : Nat := (b - 0x30).toNat

/-- Steps over the bytes of a word. -/
def expectWord : (word rest : Bytes) → Except Fault Bytes
  | [], rest => .ok rest
  | _ :: _, [] => .error ⟨.eofValue, []⟩
  | w :: word, b :: rest =>
    if b = w then expectWord word rest else .error ⟨.expectedWord, rest⟩

/-! ## Numbers -/

/-- The digits at the start of the input, and what follows them. -/
def spanDigits (rest : Bytes) : Bytes × Bytes := rest.span isDigitByte

/-- Takes digits behind the number `n` while the result fits 64 unsigned bits: that number, and how
many digits are left. -/
def takeDigits (n : Nat) : Bytes → Nat × Nat
  | [] => (n, 0)
  | d :: digits =>
    let next := 10 * n + digitValue d
    if next < UInt64.size then takeDigits next digits else (n, digits.length + 1)

/-- The double nearest to a power of ten. -/
def powerOfTen (n : Nat) : Float := Decimal.toFloat ⟨false, 1, n⟩

/-- The greatest power of ten that a double is multiplied with or divided by at once. -/
def greatestPower : Nat := 308

/-- Divides by the greatest power so many times, but no further than to zero, and then by
`10 ^ n`. -/
def scaledDown (x : Float) (n : Nat) : (times : Nat) → Float
  | 0 => x / powerOfTen n
  | times + 1 => if x == 0 then x else scaledDown (x / powerOfTen greatestPower) n times

/-- A double times a power of ten, by one multiplication or by divisions. The result need not be the
nearest double; none where it would be infinite. -/
def scaled? (x : Float) (exponent : Int) : Option Float :=
  let n := exponent.natAbs
  if exponent < 0 then
    let times := (n - 1) / greatestPower
    some (scaledDown x (n - times * greatestPower) times)
  else if n ≤ greatestPower then
    let y := x * powerOfTen n
    if y.isInf then none else some y
  else if x == 0 then some x else none

/-- A literal with a fraction or an exponent, or an integer outside its range, as a double. The
significand is made of the first digits, as many as fit it: it becomes a double, and is then scaled.
A digit of the whole part that did not fit still counts for the exponent. -/
def doubleOfDigits (negative : Bool) (whole fraction : Bytes) (exponent : Int) (rest : Bytes) :
    Except Fault (Json × Bytes) :=
  let (n, beyond) := takeDigits 0 whole
  let (n, dropped) := takeDigits n fraction
  match scaled? (Decimal.floatOfInt n) (exponent + beyond - (fraction.length - dropped : Nat)) with
  | none => .error ⟨.numberOutOfRange, rest⟩
  | some x => .ok (float (if negative then -x else x), rest)

/-- An integer literal: an integer from `-2 ^ 63` to `2 ^ 64 - 1`, `-0` apart, else a double. -/
def integerOfDigits (negative : Bool) (digits rest : Bytes) : Except Fault (Json × Bytes) :=
  let (n, beyond) := takeDigits 0 digits
  if beyond = 0 ∧ !negative then .ok (int n, rest)
  else if beyond = 0 ∧ 0 < n ∧ n ≤ 0x8000000000000000 then .ok (int (-n), rest)
  else doubleOfDigits negative digits [] 0 rest

/-- Reads the digits of an exponent, up to the first digit with which it needs more than 31 bits. -/
def scanExponent (e : Nat) : Bytes → Option Nat × Bytes
  | [] => (some e, [])
  | b :: rest =>
    if isDigitByte b then
      let e := 10 * e + digitValue b
      if e < 0x80000000 then scanExponent e rest else (none, rest)
    else (some e, b :: rest)

/-- The sign of an exponent, and what follows it. -/
def exponentSign : Bytes → Bool × Bytes
  | [] => (false, [])
  | b :: rest =>
    if b = 0x2B then (false, rest) else if b = 0x2D then (true, rest) else (false, b :: rest)

/-- The part of a literal behind its `e`. -/
def scanExponentPart (negative : Bool) (whole fraction rest : Bytes) :
    Except Fault (Json × Bytes) :=
  let (downwards, rest) := exponentSign rest
  match rest with
  | [] => .error ⟨.eofValue, []⟩
  | b :: tail =>
    if isDigitByte b then
      match scanExponent 0 (b :: tail) with
      | (some e, rest) =>
        doubleOfDigits negative whole fraction (if downwards then -(e : Int) else e) rest
      | (none, rest) =>
        if downwards || (whole ++ fraction).all (· == 0x30) then
          .ok (float (Decimal.toFloat ⟨negative, 0, 0⟩), rest.dropWhile isDigitByte)
        else .error ⟨.numberOutOfRange, rest⟩
    else .error ⟨.invalidNumber, tail⟩

/-- An exponent, if there is one. -/
def scanAfterFraction (negative : Bool) (whole fraction : Bytes) (rest : Bytes) :
    Except Fault (Json × Bytes) :=
  match rest with
  | b :: tail =>
    if b = 0x65 ∨ b = 0x45 then scanExponentPart negative whole fraction tail
    else doubleOfDigits negative whole fraction 0 rest
  | [] => doubleOfDigits negative whole fraction 0 rest

/-- The part of a literal behind its integer digits. -/
def scanAfterWhole (negative : Bool) (whole : Bytes) (rest : Bytes) :
    Except Fault (Json × Bytes) :=
  match rest with
  | [] => integerOfDigits negative whole []
  | b :: tail =>
    if b = 0x2E then
      match spanDigits tail with
      | ([], []) => .error ⟨.eofValue, []⟩
      | ([], rest) => .error (.afterNext .invalidNumber rest)
      | (fraction, rest) => scanAfterFraction negative whole fraction rest
    else if b = 0x65 ∨ b = 0x45 then scanExponentPart negative whole [] tail
    else integerOfDigits negative whole rest

/-- A number, its minus sign already read. -/
def scanNumber (negative : Bool) (rest : Bytes) : Except Fault (Json × Bytes) :=
  match rest with
  | [] => .error ⟨.eofValue, []⟩
  | b :: tail =>
    if b = 0x30 then
      match tail with
      | d :: _ =>
        if isDigitByte d then .error (.afterNext .invalidNumber tail)
        else scanAfterWhole negative [b] tail
      | [] => scanAfterWhole negative [b] tail
    else if isDigitByte b then
      let (digits, rest) := spanDigits rest
      scanAfterWhole negative digits rest
    else .error ⟨.invalidNumber, tail⟩

/-- Steps over the exponent behind an `e`. -/
def skipExponentPart (rest : Bytes) : Except Fault Bytes :=
  match (exponentSign rest).2 with
  | [] => .error ⟨.invalidNumber, []⟩
  | b :: tail =>
    if isDigitByte b then .ok (tail.dropWhile isDigitByte) else .error ⟨.invalidNumber, tail⟩

/-- Steps over an exponent, if there is one. -/
def skipAfterFraction (rest : Bytes) : Except Fault Bytes :=
  match rest with
  | b :: tail => if b = 0x65 ∨ b = 0x45 then skipExponentPart tail else .ok rest
  | [] => .ok rest

/-- Steps over a fraction and an exponent, if there are any. -/
def skipAfterWhole (rest : Bytes) : Except Fault Bytes :=
  match rest with
  | b :: tail =>
    if b = 0x2E then
      match spanDigits tail with
      | ([], rest) => .error (.afterNext .invalidNumber rest)
      | (_, rest) => skipAfterFraction rest
    else skipAfterFraction rest
  | [] => .ok rest

/-- Steps over a number, its minus sign already read. -/
def skipNumber (rest : Bytes) : Except Fault Bytes :=
  match rest with
  | [] => .error ⟨.invalidNumber, []⟩
  | b :: tail =>
    if b = 0x30 then
      match tail with
      | d :: _ =>
        if isDigitByte d then .error (.afterNext .invalidNumber tail) else skipAfterWhole tail
      | [] => .ok []
    else if isDigitByte b then skipAfterWhole (tail.dropWhile isDigitByte)
    else .error ⟨.invalidNumber, tail⟩

/-! ## Strings -/

/-- The value of a hexadecimal digit. -/
def hexValue? (b : UInt8) : Option Nat :=
  if isDigitByte b then some (digitValue b)
  else if 0x41 ≤ b ∧ b ≤ 0x46 then some (b.toNat - 0x37)
  else if 0x61 ≤ b ∧ b ≤ 0x66 then some (b.toNat - 0x57)
  else none

/-- The code unit of four hexadecimal digits. -/
def codeUnit? (a b c d : UInt8) : Option Nat := do
  return 4096 * (← hexValue? a) + 256 * (← hexValue? b) + 16 * (← hexValue? c) + (← hexValue? d)

/-- The first unit of a surrogate pair. -/
def isLeadingSurrogate (n : Nat) : Bool := 0xD800 ≤ n && n ≤ 0xDBFF

/-- The second unit of a surrogate pair. -/
def isTrailingSurrogate (n : Nat) : Bool := 0xDC00 ≤ n && n ≤ 0xDFFF

/-- The code point of a surrogate pair. -/
def pairedCodePoint (lead trail : Nat) : Nat := 0x10000 + (lead - 0xD800) * 0x400 + (trail - 0xDC00)

/-- The byte that a one-letter escape stands for. -/
def escapedByte? (b : UInt8) : Option UInt8 :=
  if b = 0x22 ∨ b = 0x5C ∨ b = 0x2F then some b
  else if b = 0x62 then some 0x08
  else if b = 0x66 then some 0x0C
  else if b = 0x6E then some 0x0A
  else if b = 0x72 then some 0x0D
  else if b = 0x74 then some 0x09
  else none

/-- Appends a code point in UTF-8. -/
def pushCodePoint (out : ByteArray) (n : Nat) : ByteArray :=
  (String.utf8EncodeChar (Char.ofNat n)).foldl ByteArray.push out

/-- The fault of a leading surrogate that no escaped trailing one follows. -/
def brokenPair : Bytes → Fault
  | [] => ⟨.eofString, []⟩
  | b :: rest =>
    if b = 0x5C then
      match rest with
      | [] => ⟨.eofString, []⟩
      | c :: rest => if c = 0x75 then ⟨.eofString, []⟩ else ⟨.brokenSurrogatePair, rest⟩
    else ⟨.brokenSurrogatePair, rest⟩

/-- Decodes a string behind its opening quote, and steps over the closing one. -/
def stringBytes (out : ByteArray) : Bytes → Except Fault (ByteArray × Bytes)
  | [] => .error ⟨.eofString, []⟩
  | b :: rest =>
    if b = 0x22 then .ok (out, rest)
    else if b = 0x5C then
      match rest with
      | [] => .error ⟨.eofString, []⟩
      | e :: rest =>
        if e = 0x75 then
          match rest with
          | h₁ :: h₂ :: h₃ :: h₄ :: rest =>
            match codeUnit? h₁ h₂ h₃ h₄ with
            | none => .error ⟨.invalidEscape, rest⟩
            | some lead =>
              if isTrailingSurrogate lead then .error ⟨.loneSurrogate, rest⟩
              else if isLeadingSurrogate lead then
                match rest with
                | s :: u :: l₁ :: l₂ :: l₃ :: l₄ :: rest' =>
                  if s = 0x5C ∧ u = 0x75 then
                    match codeUnit? l₁ l₂ l₃ l₄ with
                    | none => .error ⟨.invalidEscape, rest'⟩
                    | some trail =>
                      if isTrailingSurrogate trail then
                        stringBytes (pushCodePoint out (pairedCodePoint lead trail)) rest'
                      else .error ⟨.loneSurrogate, rest'⟩
                  else .error (brokenPair rest)
                | _ => .error (brokenPair rest)
              else stringBytes (pushCodePoint out lead) rest
          | _ => .error ⟨.eofString, []⟩
        else
          match escapedByte? e with
          | some c => stringBytes (out.push c) rest
          | none => .error ⟨.invalidEscape, rest⟩
    else if b < 0x20 then .error ⟨.controlCharacter, rest⟩
    else stringBytes (out.push b) rest

/-- A byte inside a UTF-8 sequence. -/
def isContinuation (b : UInt8) : Bool := 0x80 ≤ b && b ≤ 0xBF

/-- A well-formed sequence of two bytes. -/
def isPair (a b : UInt8) : Bool := 0xC2 ≤ a && a ≤ 0xDF && isContinuation b

/-- A well-formed sequence of three bytes: no overlong form and no surrogate. -/
def isTriple (a b c : UInt8) : Bool :=
  0xE0 ≤ a && a ≤ 0xEF && isContinuation b && isContinuation c &&
    (a != 0xE0 || 0xA0 ≤ b) && (a != 0xED || b ≤ 0x9F)

/-- A well-formed sequence of four bytes: no overlong form, nothing beyond U+10FFFF. -/
def isQuadruple (a b c d : UInt8) : Bool :=
  0xF0 ≤ a && a ≤ 0xF4 && isContinuation b && isContinuation c && isContinuation d &&
    (a != 0xF0 || 0x90 ≤ b) && (a != 0xF4 || b ≤ 0x8F)

/-- The bytes from their first ill-formed UTF-8 sequence on. -/
def firstIllFormed : Bytes → Bytes
  | [] => []
  | a :: rest =>
    if a < 0x80 then firstIllFormed rest
    else match rest with
      | [] => [a]
      | b :: rest₂ =>
        if isPair a b then firstIllFormed rest₂
        else match rest₂ with
          | [] => a :: rest
          | c :: rest₃ =>
            if isTriple a b c then firstIllFormed rest₃
            else match rest₃ with
              | [] => a :: rest
              | d :: rest₄ => if isQuadruple a b c d then firstIllFormed rest₄ else a :: rest

/-- A string, its opening quote already read. Ill-formed UTF-8 is reported once the string has
ended, as many bytes before its end as are left of the decoded string from the first ill-formed
sequence on: at that sequence, unless escapes follow it. -/
def scanString (rest : Bytes) : Except Fault (String × Bytes) :=
  match stringBytes .empty rest with
  | .error f => .error f
  | .ok (bytes, after) =>
    match String.fromUTF8? bytes with
    | some s => .ok (s, after)
    | none =>
      let left := after.length + (firstIllFormed bytes.toList).length
      .error ⟨.illFormedUtf8, rest.drop (rest.length - left)⟩

/-- Steps over a string, its opening quote already read. -/
def skipString : Bytes → Except Fault Bytes
  | [] => .error ⟨.eofString, []⟩
  | b :: rest =>
    if b = 0x22 then .ok rest
    else if b = 0x5C then
      match rest with
      | [] => .error ⟨.eofString, []⟩
      | e :: rest =>
        if e = 0x75 then
          match rest with
          | h₁ :: h₂ :: h₃ :: h₄ :: rest =>
            if (codeUnit? h₁ h₂ h₃ h₄).isSome then skipString rest
            else .error ⟨.invalidEscape, rest⟩
          | _ => .error ⟨.eofString, []⟩
        else if (escapedByte? e).isSome then skipString rest
        else .error ⟨.invalidEscape, rest⟩
    else if b < 0x20 then .error ⟨.controlCharacter, b :: rest⟩
    else skipString rest

end SearchGateway.Json
