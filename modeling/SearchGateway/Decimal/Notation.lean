import SearchGateway.Decimal.Shortest

/-!
# Writing decimals

How a decimal is laid out is one record: which magnitudes are written positionally, and whether a
whole number keeps a fraction. `Layout.number` is the layout of numbers in JSON texts and
`Layout.plain` the layout of numbers that are written without an exponent.
-/

namespace SearchGateway

/-- The decisions that remain once the digits of a number are known. The point stands after as many
digits as the number has before it; a number below one has its point at zero or further left. -/
structure Layout where
  /-- The leftmost point of a number written positionally. -/
  leastPoint : Int
  /-- The rightmost point of a number written positionally. -/
  greatestPoint : Int
  /-- A whole number is written with `.0`. -/
  keepsFraction : Bool

namespace Layout

/-- Numbers of JSON texts: an exponent from 1e16 upwards and below 1e-5. -/
def number : Layout := ⟨-4, 16, true⟩

/-- No exponent at all. -/
def plain : Layout := ⟨-1100, 1100, false⟩

/-- An exponent, with the sign of either direction. -/
def exponentText (e : Int) : String :=
  if e < 0 then s!"e-{e.natAbs}" else s!"e+{e.natAbs}"

/-- Lays out digits, the first one not zero, with the point after `point` of them. -/
def positional (layout : Layout) (digits : List Char) (point : Int) : String :=
  if point ≤ 0 then
    "0." ++ String.ofList (List.replicate point.natAbs '0' ++ digits)
  else if digits.length ≤ point.toNat then
    String.ofList (digits ++ List.replicate (point.toNat - digits.length) '0') ++
      if layout.keepsFraction then ".0" else ""
  else
    String.ofList (digits.take point.toNat) ++ "." ++ String.ofList (digits.drop point.toNat)

/-- One digit before the point, and the exponent that makes up for it. -/
def scientific (digits : List Char) (point : Int) : String :=
  match digits with
  | [] => "0"
  | [d] => d.toString ++ exponentText (point - 1)
  | d :: ds => d.toString ++ "." ++ String.ofList ds ++ exponentText (point - 1)

/-- Drops the zeros at the end of a list of digits. -/
def withoutTrailingZeros (digits : List Char) : List Char :=
  (digits.reverse.dropWhile (· == '0')).reverse

/-- Writes a decimal. -/
def write (layout : Layout) (d : Decimal) : String :=
  let sign := if d.negative then "-" else ""
  if d.digits = 0 then sign ++ if layout.keepsFraction then "0.0" else "0"
  else
    let all := Nat.toDigits 10 d.digits
    let point := d.exponent + all.length
    let digits := withoutTrailingZeros all
    sign ++
      if layout.leastPoint ≤ point ∧ point ≤ layout.greatestPoint then
        layout.positional digits point
      else scientific digits point

/-- Writes a double; one that is not finite is written as a word. -/
def floatText (layout : Layout) (x : Float) : String :=
  if x.isNaN then "NaN"
  else if x.isInf then (if x < 0 then "-inf" else "inf")
  else layout.write (Decimal.ofFloat x)

end Layout

end SearchGateway
