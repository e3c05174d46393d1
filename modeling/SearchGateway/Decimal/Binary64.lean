/-!
# Doubles by their bits

A `Float` has a single value that is not a number. The total order of doubles tells such values
apart, by their sign bit and by the bits behind it; so weights and scores, which are put in that
order, are doubles by their bits, `Binary64`. Apart from this, a `Binary64` stands for a `Float`: it
is compared with `≤`, `<` and `==` as a number, while `=` compares bits.

Arithmetic is that of `Float`, as long as the result is a number. Where it is not, arithmetic leaves
its bits open, and they are given by a `NanRule`.
-/

namespace SearchGateway

/-- A double by its bits. -/
@[ext]
structure Binary64 where
  bits : UInt64
  deriving DecidableEq, Repr

namespace Binary64

/-- The sign bit. -/
def signBit : UInt64 := 0x8000000000000000

/-- The double as a `Float`. -/
def toFloat (x : Binary64) : Float := .ofBits x.bits

/-- A `Float` by its bits. -/
def ofFloat (x : Float) : Binary64 := ⟨x.toBits⟩

instance : Coe Float Binary64 := ⟨ofFloat⟩

instance : Coe Binary64 Float := ⟨toFloat⟩

instance (n : Nat) : OfNat Binary64 n := ⟨ofFloat (OfNat.ofNat n)⟩

instance : OfScientific Binary64 := ⟨fun m s e => ofFloat (OfScientific.ofScientific m s e)⟩

instance : Neg Binary64 := ⟨fun x => ⟨x.bits ^^^ signBit⟩⟩

/-- Whether the double is not a number. -/
def isNaN (x : Binary64) : Bool := x.toFloat.isNaN

/-- Whether the double is a number and not infinite. -/
def isFinite (x : Binary64) : Bool := x.toFloat.isFinite

/-- Whether the sign bit is set. -/
def isSigned (x : Binary64) : Bool := signBit ≤ x.bits

/-- The double nearest to a count, which is the count itself. -/
def ofCount (n : UInt32) : Binary64 := ofFloat n.toFloat

/-! ## Comparison as numbers -/

instance : BEq Binary64 := ⟨fun x y => x.toFloat == y.toFloat⟩

instance : LE Binary64 := ⟨fun x y => x.toFloat ≤ y.toFloat⟩

instance : LT Binary64 := ⟨fun x y => x.toFloat < y.toFloat⟩

instance : DecidableLE Binary64 := fun x y =>
  inferInstanceAs (Decidable (x.toFloat ≤ y.toFloat))

instance : DecidableLT Binary64 := fun x y =>
  inferInstanceAs (Decidable (x.toFloat < y.toFloat))

/-! ## Arithmetic -/

/-- The bits of a result that is not a number, by the operands. Machines differ in them. -/
class NanRule where
  /-- The bits of a sum. -/
  sum : Binary64 → Binary64 → UInt64
  /-- The bits of a quotient. -/
  quotient : Binary64 → Binary64 → UInt64

/-- A value that is not a number, and quiet: its sign bit and the bits behind the quiet one are
those given. -/
def quietNaN (bits : UInt64) : Binary64 := ⟨bits ||| 0x7FF8000000000000⟩

/-- The bits of the first operand that is not a number. An operation without a value, as infinity
minus infinity, has the sign bit set. -/
def passedOn (x y : Binary64) : UInt64 :=
  if x.isNaN then x.bits else if y.isNaN then y.bits else signBit

/-- The rule of the machine. -/
instance : NanRule := ⟨passedOn, passedOn⟩

instance [NanRule] : Add Binary64 :=
  ⟨fun x y =>
    let sum := x.toFloat + y.toFloat
    if sum.isNaN then quietNaN (NanRule.sum x y) else ofFloat sum⟩

instance [NanRule] : Div Binary64 :=
  ⟨fun x y =>
    let quotient := x.toFloat / y.toFloat
    if quotient.isNaN then quietNaN (NanRule.quotient x y) else ofFloat quotient⟩

end Binary64

end SearchGateway
