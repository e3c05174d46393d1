/-!
# Decimals and binary floating-point values

A decimal is a sign, a natural number of digits and a power of ten; a binary format is a precision
and an exponent range. `BinaryFormat.roundRatio` gives the value of a format nearest to an exact
ratio, ties to even, as the format's own bit pattern: the pattern of a positive value counts the
values below it, so a significand that rounds up to the next power of two needs no case of its own.
-/

namespace SearchGateway

/-- A power of two. -/
abbrev pow2 (n : Nat) : Nat := Nat.pow 2 n

/-- A power of ten. -/
abbrev pow10 (n : Nat) : Nat := Nat.pow 10 n

/-- The number `± digits * 10 ^ exponent`. -/
structure Decimal where
  negative : Bool
  digits : Nat
  exponent : Int
  deriving DecidableEq, Repr

/-- A binary interchange format: the bits of a significand, hidden bit included, and the width of
the exponent field. -/
structure BinaryFormat where
  precision : Nat
  exponentWidth : Nat

namespace BinaryFormat

/-- The 64-bit format. -/
def double : BinaryFormat := ⟨53, 11⟩

/-- The 32-bit format. -/
def single : BinaryFormat := ⟨24, 8⟩

variable (fmt : BinaryFormat)

/-- The number of patterns that share one exponent. -/
def binade : Nat := pow2 (fmt.precision - 1)

/-- The exponent of the last place of a subnormal: such a value is `m * 2 ^ leastUnit`. -/
def leastUnit : Int := 3 - (pow2 (fmt.exponentWidth - 1) : Int) - fmt.precision

/-- The pattern of infinity. -/
def infinityBits : Nat := (pow2 fmt.exponentWidth - 1) * fmt.binade

/-- The sign bit. -/
def signBit : Nat := pow2 (fmt.precision + fmt.exponentWidth - 1)

end BinaryFormat

/-- A finite non-negative value of a binary format, `significand * 2 ^ unit`. -/
structure BinaryMagnitude where
  significand : Nat
  unit : Int
  /-- The value below is half as far away as the value above: the significand is a power of two. -/
  narrowBelow : Bool

/-- Reads the pattern of a finite value, the sign bit left out. -/
def BinaryFormat.magnitude (fmt : BinaryFormat) (bits : Nat) : BinaryMagnitude :=
  let field := bits / fmt.binade
  let fraction := bits % fmt.binade
  if field = 0 then ⟨fraction, fmt.leastUnit, false⟩
  else ⟨fmt.binade + fraction, fmt.leastUnit + (field - 1 : Nat), fraction == 0 && 1 < field⟩

/-- The quotient rounded to the nearest natural number, a half to the even neighbour. -/
def roundedQuotient (num den : Nat) : Nat :=
  let q := num / den
  let twice := 2 * (num % den)
  if twice < den then q
  else if twice = den then q + q % 2
  else q + 1

/-- The integer `e` with `2 ^ e ≤ num / den < 2 ^ (e + 1)`, for positive `num` and `den`. -/
def floorLog2Ratio (num den : Nat) : Int :=
  let e : Int := (num.log2 : Int) - den.log2
  if num * pow2 (-e).toNat < den * pow2 e.toNat then e - 1 else e

/-- The pattern of the value nearest to `num / den`, ties to even; infinity where the ratio lies
beyond the format's range. -/
def BinaryFormat.roundRatio (fmt : BinaryFormat) (num den : Nat) : Nat :=
  if num = 0 then 0
  else
    let unit := max fmt.leastUnit (floorLog2Ratio num den - (fmt.precision - 1 : Nat))
    let significand := roundedQuotient (num * pow2 (-unit).toNat) (den * pow2 unit.toNat)
    min fmt.infinityBits ((unit - fmt.leastUnit).toNat * fmt.binade + significand)

namespace Decimal

/-- The number of decimal digits of a natural number; zero has none. -/
def digitCount (n : Nat) : Nat :=
  if n = 0 then 0 else (Nat.toDigits 10 n).length

/-- The pattern of a decimal in a format, sign included. A power of ten far beyond every format's
range is settled before it is computed. -/
def toBits (fmt : BinaryFormat) (d : Decimal) : Nat :=
  let sign := if d.negative then fmt.signBit else 0
  let scale := d.exponent + digitCount d.digits
  let reach : Int := pow2 fmt.exponentWidth
  if d.digits = 0 ∨ scale < -reach then sign
  else if reach < scale then sign + fmt.infinityBits
  else sign + fmt.roundRatio (d.digits * pow10 d.exponent.toNat) (pow10 (-d.exponent).toNat)

/-- The double nearest to a decimal. -/
def toFloat (d : Decimal) : Float := .ofBits (.ofNat (d.toBits .double))

/-- The integer as a decimal. -/
def ofInt (n : Int) : Decimal := ⟨n < 0, n.natAbs, 0⟩

end Decimal

/-- The double nearest to an integer. -/
def Decimal.floatOfInt (n : Int) : Float := (ofInt n).toFloat

/-- The single nearest to a double; what lies beyond the range of singles becomes infinite. -/
def BinaryFormat.toSingle (x : Float) : Float32 :=
  if x.isNaN then .ofBits 0x7fc00000
  else
    let bits := x.toBits.toNat
    let sign := bits / BinaryFormat.double.signBit * BinaryFormat.single.signBit
    let rest := bits % BinaryFormat.double.signBit
    if BinaryFormat.double.infinityBits ≤ rest then
      .ofBits (.ofNat (sign + BinaryFormat.single.infinityBits))
    else
      let m := BinaryFormat.double.magnitude rest
      .ofBits (.ofNat (sign +
        BinaryFormat.single.roundRatio (m.significand * pow2 m.unit.toNat) (pow2 (-m.unit).toNat)))

end SearchGateway
