/-!
# Labels in ASCII

A label with letters beyond ASCII is written in ASCII as its ASCII characters, a hyphen, and numbers
that say which other characters to insert where. The numbers are the steps from one insertion to
the next, counted over all places and then over all characters, and have digits of varying weight in
base 36. `Punycode.encode` writes labels so, and `Punycode.decode?` reads them.
-/

namespace SearchGateway.Domain.Punycode

/-! ## Digits -/

/-- The digit of a value below 36: the letters first, then the decimal digits. -/
def digitChar (d : Nat) : Char :=
  if d < 26 then Char.ofNat ('a'.toNat + d) else Char.ofNat ('0'.toNat + (d - 26))

/-- The value of a digit. -/
def digit? (c : Char) : Option Nat :=
  if 'a' ≤ c ∧ c ≤ 'z' then some (c.toNat - 'a'.toNat)
  else if c.isDigit then some (c.toNat - '0'.toNat + 26)
  else none

/-- Below this value a digit at the given place is the last one of its number. -/
def threshold (place bias : Nat) : Nat :=
  if place ≤ bias then 1 else if bias + 26 ≤ place then 26 else place - bias

/-- A threshold is at least one, so that every number ends. -/
theorem one_le_threshold (place bias : Nat) : 1 ≤ threshold place bias := by
  unfold threshold
  split
  · omega
  · split <;> omega

/-- A threshold leaves at least ten digits that do not end a number. -/
theorem threshold_le (place bias : Nat) : threshold place bias ≤ 26 := by
  unfold threshold
  split
  · omega
  · split <;> omega

/-- The digits of a number, from the given place on. -/
def digitsFrom (bias place n : Nat) : List Char :=
  let t := threshold place bias
  if n < t then [digitChar n]
  else digitChar (t + (n - t) % (36 - t)) :: digitsFrom bias (place + 36) ((n - t) / (36 - t))
termination_by n
decreasing_by
  have low := one_le_threshold place bias
  have high := threshold_le place bias
  have := Nat.div_le_self (n - threshold place bias) (36 - threshold place bias)
  omega

/-- Divides a step until it is small, and adds the places that this takes. -/
def scaledBias (places step : Nat) : Nat :=
  if 455 < step then scaledBias (places + 36) (step / 35) else places + 36 * step / (step + 38)
termination_by step

/-- The bias behind a step, which makes the digits of similar steps few. The first step is far
greater than those that follow. -/
def nextBias (step length : Nat) (isFirst : Bool) : Nat :=
  let step := if isFirst then step / 700 else step / 2
  scaledBias 0 (step + step / length)

/-- The bias before any step. -/
def firstBias : Nat := 72

/-! ## Writing -/

/-- A label as far as it is written: how many of its characters, the step to the next place, and
what is written. -/
structure Progress where
  length : Nat
  step : Nat
  bias : Nat
  out : List Char

/-- Passes over one character of the label while those of the given code point are written. -/
def Progress.pass (basics n : Nat) (p : Progress) (c : Char) : Progress :=
  if c.toNat < n then { p with step := p.step + 1 }
  else if c.toNat = n then
    { length := p.length + 1
      step := 0
      bias := nextBias p.step (p.length + 1) (p.length == basics)
      out := p.out ++ digitsFrom p.bias 36 p.step }
  else p

/-- Writes the characters beyond ASCII, by ascending code points. -/
def writeFrom (label : List Char) (basics next : Nat) (p : Progress) : List Nat → List Char
  | [] => p.out
  | n :: ns =>
    let p := { p with step := p.step + (n - next) * (p.length + 1) }
    let p := label.foldl (Progress.pass basics n) p
    writeFrom label basics (n + 1) { p with step := p.step + 1 } ns

/-- Whether a character is in ASCII. -/
def isBasic (c : Char) : Bool := c.toNat < 0x80

/-- The code points of a label beyond ASCII, each once, in ascending order. -/
def furtherCodePoints (label : List Char) : List Nat :=
  (((label.filter (!isBasic ·)).map Char.toNat).mergeSort (· ≤ ·)).eraseDups

/-- A label in ASCII, without the mark that it is written so. -/
def encode (label : List Char) : List Char :=
  let basics := label.filter isBasic
  let start : Progress := ⟨basics.length, 0, firstBias, []⟩
  (if basics.isEmpty then [] else basics ++ ['-']) ++
    writeFrom label basics.length 0x80 start (furtherCodePoints label)

/-! ## Reading -/

/-- A label as far as it is read: the last code point and the place behind it, the bias, and the
number that is being read, with the weight and the place of its next digit. -/
structure Reading where
  label : List Char
  codePoint : Nat
  position : Nat
  bias : Nat
  number : Nat
  weight : Nat
  place : Nat

/-- Nothing but the ASCII characters of a label is read. -/
def Reading.start (basics : List Char) : Reading :=
  ⟨basics, 0x80, 0, firstBias, 0, 1, 36⟩

/-- Inserts a character once its number is read. -/
def Reading.insert? (r : Reading) : Option Reading :=
  let length := r.label.length + 1
  let target := r.position + r.number
  let codePoint := r.codePoint + target / length
  if codePoint.isValidChar then
    some
      { label := r.label.insertIdx (target % length) (Char.ofNat codePoint)
        codePoint
        position := target % length + 1
        bias := nextBias r.number length (r.position == 0)
        number := 0
        weight := 1
        place := 36 }
  else none

/-- Reads one digit. -/
def Reading.digit? (r : Reading) (d : Nat) : Option Reading :=
  let t := threshold r.place r.bias
  let r := { r with number := r.number + d * r.weight }
  if d < t then r.insert?
  else some { r with weight := r.weight * (36 - t), place := r.place + 36 }

/-- Reads digits up to the end, which has to be the end of a number. -/
def Reading.digits? (r : Reading) : List Char → Option (List Char)
  | [] => if r.place = 36 then some r.label else none
  | c :: cs => do (← r.digit? (← Punycode.digit? c)).digits? cs

/-- The label that a text in ASCII stands for; its ASCII characters come before the last hyphen. -/
def decode? (cs : List Char) : Option (List Char) :=
  let digits := (cs.reverse.takeWhile (· != '-')).reverse
  let basics := (cs.take (cs.length - digits.length)).dropLast
  (Reading.start basics).digits? digits

end SearchGateway.Domain.Punycode
