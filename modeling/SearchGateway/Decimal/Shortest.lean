import SearchGateway.Decimal.Binary

/-!
# The shortest decimal that reads back

The reals that round to a binary value form an interval, whose ends belong to it exactly when the
significand is even. `BinaryMagnitude.shortest` looks at coarser decimal grids first: on each grid
only the two neighbours of the value can lie in the interval, so the first grid with a hit has the
fewest digits, and of two hits the nearer one is taken.
-/

namespace SearchGateway

namespace BinaryMagnitude

/-- Numerators, over `denominator`, of the value and of the two ends of the interval that rounds to
it. -/
structure Interval where
  low : Nat
  value : Nat
  high : Nat
  denominator : Nat
  closed : Bool

/-- The interval of the reals that round to the value. -/
def interval (x : BinaryMagnitude) : Interval :=
  let scale := pow2 (x.unit - 2).toNat
  { low := (4 * x.significand - if x.narrowBelow then 1 else 2) * scale
    value := 4 * x.significand * scale
    high := (4 * x.significand + 2) * scale
    denominator := pow2 (2 - x.unit).toNat
    closed := x.significand % 2 == 0 }

/-- The same interval with `10 ^ k` as the unit of measure. -/
def Interval.inUnits (i : Interval) (k : Int) : Interval :=
  { i with
    low := i.low * pow10 (-k).toNat
    value := i.value * pow10 (-k).toNat
    high := i.high * pow10 (-k).toNat
    denominator := i.denominator * pow10 k.toNat }

/-- Whether a whole number of units lies in the interval. -/
def Interval.contains (i : Interval) (n : Nat) : Bool :=
  let at' := n * i.denominator
  if i.closed then decide (i.low ≤ at' ∧ at' ≤ i.high) else decide (i.low < at' ∧ at' < i.high)

/-- The whole number of units in the interval that is nearest to the value, if there is one; a tie
goes to the even number. -/
def Interval.nearest? (i : Interval) : Option Nat :=
  let below := i.value / i.denominator
  let above := below + 1
  match i.contains below, i.contains above with
  | false, false => none
  | true, false => some below
  | false, true => some above
  | true, true =>
    let toBelow := i.value - below * i.denominator
    let toAbove := above * i.denominator - i.value
    if toBelow < toAbove then some below
    else if toAbove < toBelow then some above
    else some (below + below % 2)

/-- Tries the grids `10 ^ k`, `10 ^ (k - 1)`, … in turn. -/
def search (i : Interval) : Nat → Int → Option (Nat × Int)
  | 0, _ => none
  | tries + 1, k =>
    match (i.inUnits k).nearest? with
    | some n => some (n, k)
    | none => search i tries (k - 1)

/-- A power of ten above the value, not far above it. -/
def scaleBound (x : BinaryMagnitude) : Int :=
  ((x.significand.log2 : Int) + 1 + x.unit) * 30103 / 100000 + 1

/-- Digits and power of ten of the shortest decimal that reads back as the value. The search ends
before its bound, since the grid of the value's own last place has a hit. -/
def shortest (x : BinaryMagnitude) : Nat × Int :=
  if x.significand = 0 then (0, 0)
  else (search x.interval 800 x.scaleBound).getD (x.significand, 0)

end BinaryMagnitude

/-- The shortest decimal that reads back as a finite double. -/
def Decimal.ofFloat (x : Float) : Decimal :=
  let bits := x.toBits.toNat
  let half := BinaryFormat.double.signBit
  let (digits, exponent) := (BinaryFormat.double.magnitude (bits % half)).shortest
  ⟨half ≤ bits, digits, exponent⟩

/-- The shortest decimal that reads back as a finite single. -/
def Decimal.ofSingle (x : Float32) : Decimal :=
  let bits := x.toBits.toNat
  let half := BinaryFormat.single.signBit
  let (digits, exponent) := (BinaryFormat.single.magnitude (bits % half)).shortest
  ⟨half ≤ bits, digits, exponent⟩

end SearchGateway
