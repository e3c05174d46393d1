import SearchGateway.Decimal.Binary64
import SearchGateway.Proofs.Double.Zero
import SearchGateway.Ranking.Score

/-!
# Doubles by their bits

A double by its bits unpacks to what its bits say (`unpack_toFloat`), and is a number as long as
they do not lie above those of infinity, the sign bit apart (`isNaN_iff`). As a number it is told by
the `Float` it stands for (`eq_of_toFloat_eq`), and sums and quotients stand for those of the
`Float`s, whatever the rule for what is not a number (`toFloat_add`, `toFloat_div`).

`StandsBelow` is the total order of doubles, and `scoreKey_lt_iff` says that `scoreKey` is a key for
it.
-/

namespace SearchGateway.Binary64

open Double
open Float.Model (Format)
open Float.Model.UnpackedFloat

variable {x y : Binary64}

/-! ## The `Float` of a double -/

/-- Taking a `Float` by its bits loses nothing. -/
theorem toFloat_ofFloat (x : Float) : (ofFloat x).toFloat = x := Float.ofBits_toBits x

/-- A double unpacks to what its bits say. -/
theorem unpack_toFloat (x : Binary64) :
    x.toFloat.toModel.unpack = unpack Format.binary64 x.bits.toBitVec := by
  change unpack Format.binary64 (pack Format.binary64 (unpack Format.binary64 x.bits.toBitVec)) = _
  rw [pack_unpack]
  split
  · next hnan =>
    simp only [isNaNBits, decide_eq_true_eq] at hnan
    rw [unpack_packedNaN, Float.Model.UnpackedFloat.unpack, if_pos hnan.1, if_neg hnan.2]
  · rfl

/-- The bits of a number are those of its `Float`. -/
theorem toBits_toFloat (hx : x.isNaN = false) : x.toFloat.toBits = x.bits := by
  have hunpack : (unpack Format.binary64 x.bits.toBitVec).isNaN = false := by
    rw [← unpack_toFloat]
    exact hx
  change UInt64.ofBitVec (pack Format.binary64 (unpack Format.binary64 x.bits.toBitVec)) = _
  rw [pack_unpack, if_neg]
  intro hnan
  simp only [isNaNBits, decide_eq_true_eq] at hnan
  rw [Float.Model.UnpackedFloat.unpack, if_pos hnan.1, if_neg hnan.2] at hunpack
  cases hunpack

/-- Numbers that stand for one `Float` are the same. -/
theorem eq_of_toFloat_eq (hx : x.isNaN = false) (h : x.toFloat = y.toFloat) : x = y := by
  have hy : y.isNaN = false := by
    rw [isNaN, ← h]
    exact hx
  ext
  rw [← toBits_toFloat hx, ← toBits_toFloat hy, h]

/-- A double is a number as long as its bits do not lie above those of infinity. -/
theorem isNaN_iff : x.isNaN = true ↔ 2047 * 2 ^ 52 < x.bits.toNat % 2 ^ 63 := by
  let b : BitVec Format.binary64.numBits := x.bits.toBitVec
  have hfields : x.bits.toNat = _ := toNat_eq_fields b
  have hsign : (unpackSign b).toNat < 2 ^ 1 := (unpackSign b).isLt
  have hmantissa : (unpackMantissa b).toNat < 2 ^ 52 := (unpackMantissa b).isLt
  change x.toFloat.toModel.unpack.isNaN = true ↔ _
  rw [unpack_toFloat]
  rcases unpack_cases b with
    ⟨he, hm, hu⟩ | ⟨he, hm, hu⟩ | ⟨he, hm, hu⟩ | ⟨m, e, hm, hu, hcanonical, hplace⟩
  · rw [hu]
    exact iff_of_false nofun (by omega)
  · rw [hu]
    exact iff_of_true rfl (by omega)
  · rw [hu]
    exact iff_of_false nofun (by omega)
  · rw [hu]
    have hbounds := hcanonical.bounds
    exact iff_of_false nofun (by omega)

/-- The place of a number is its pattern, counted downwards where the sign bit is set. -/
theorem placeOf_toFloat (hx : x.isNaN = false) :
    placeOf x.toFloat = if x.bits.toNat < 2 ^ 63 then (x.bits.toNat : Int)
      else 2 ^ 63 - x.bits.toNat := by
  rw [placeOf_eq hx, toBits_toFloat hx]

/-! ## Zeros -/

/-- The bits of zero are all clear. -/
theorem eq_zero_iff : x = 0.0 ↔ x.bits.toNat = 0 := by
  rw [Binary64.ext_iff, ← UInt64.toNat_inj]
  rfl

/-- The bits of the negative zero are the sign bit alone. -/
theorem eq_negZero_iff : x = -0.0 ↔ x.bits.toNat = 2 ^ 63 := by
  rw [Binary64.ext_iff, ← UInt64.toNat_inj]
  rfl

/-- What stands for the negative zero is the negative zero. -/
theorem toFloat_eq_negZero_iff : x.toFloat = -0.0 ↔ x = -0.0 := by
  have hliteral : (-0.0 : Binary64).toFloat = -0.0 := by decide
  constructor
  · intro h
    exact (eq_of_toFloat_eq (by decide) (hliteral.trans h.symm)).symm
  · rintro rfl
    exact hliteral

/-! ## Arithmetic -/

/-- A `Float` that is no number is no other than one. -/
theorem float_eq_of_isNaN {x y : Float} (hx : x.isNaN = true) (hy : y.isNaN = true) : x = y := by
  rw [Float.isNaN_eq_decide_eq_nan, decide_eq_true_iff] at hx hy
  rw [hx, hy]

/-- A value made not to be a number is none. -/
theorem isNaN_quietNaN (bits : UInt64) : (quietNaN bits).isNaN = true := by
  rw [isNaN_iff, quietNaN, UInt64.toNat_or, Nat.or_mod_two_pow]
  exact lt_of_lt_of_le (by decide) Nat.right_le_or

/-- A finite double is a number. -/
theorem isNaN_of_isFinite (hx : x.isFinite = true) : x.isNaN = false :=
  Double.isNaN_of_isFinite hx

section
variable [NanRule]

/-- A sum stands for the sum of the `Float`s. -/
theorem toFloat_add (x y : Binary64) : (x + y).toFloat = x.toFloat + y.toFloat := by
  change (if (x.toFloat + y.toFloat).isNaN then quietNaN (NanRule.sum x y)
    else ofFloat (x.toFloat + y.toFloat)).toFloat = _
  split
  · next hnan => exact float_eq_of_isNaN (isNaN_quietNaN _) hnan
  · exact toFloat_ofFloat _

/-- A quotient stands for the quotient of the `Float`s. -/
theorem toFloat_div (x y : Binary64) : (x / y).toFloat = x.toFloat / y.toFloat := by
  change (if (x.toFloat / y.toFloat).isNaN then quietNaN (NanRule.quotient x y)
    else ofFloat (x.toFloat / y.toFloat)).toFloat = _
  split
  · next hnan => exact float_eq_of_isNaN (isNaN_quietNaN _) hnan
  · exact toFloat_ofFloat _

/-- The sum of two finite doubles is a number. -/
theorem isNaN_add (hx : x.isFinite = true) (hy : y.isFinite = true) : (x + y).isNaN = false := by
  rw [isNaN, toFloat_add]
  exact Double.isNaN_add hx hy

/-- The divisor of a term is at least one. -/
theorem atLeastOne_divisor (k : UInt32) {n : UInt32} (hn : n ≠ 0) :
    AtLeastOne (ofCount k + ofCount n).toFloat.toModel.unpack := by
  rw [toFloat_add, ofCount, ofCount, toFloat_ofFloat, toFloat_ofFloat]
  exact atLeastOne_add_toFloat k hn

/-- The quotient of a finite double by one that is at least one is finite. -/
theorem isFinite_div (hx : x.isFinite = true) (hy : AtLeastOne y.toFloat.toModel.unpack) :
    (x / y).isFinite = true := by
  rw [isFinite, toFloat_div]
  exact Double.isFinite_div hx hy

/-- A sum is the negative zero only if both summands are. -/
theorem eq_negZero_of_add (h : x + y = -0.0) : x = -0.0 ∧ y = -0.0 := by
  rw [← toFloat_eq_negZero_iff, toFloat_add] at h
  rw [← toFloat_eq_negZero_iff, ← toFloat_eq_negZero_iff]
  exact Double.eq_negZero_of_add h

/-- A double is a number that is not negative, nor the negative zero. -/
def Unsigned (x : Binary64) : Prop := 0 ≤ x ∧ x ≠ -0.0

instance : Decidable (Unsigned x) := inferInstanceAs (Decidable (_ ∧ _))

/-- A quotient of such a double by one that is at least one is not the negative zero. -/
theorem ne_negZero_div (hx : Unsigned x) (hy : AtLeastOne y.toFloat.toModel.unpack) :
    x / y ≠ -0.0 := by
  obtain ⟨hnonneg, hne⟩ := hx
  rw [Ne, ← toFloat_eq_negZero_iff] at hne ⊢
  rw [toFloat_div]
  exact Double.ne_negZero_div hnonneg hne hy

end

/-! ## Numeric order -/

/-- The numeric order of numbers is transitive. -/
theorem le_trans_of_not_isNaN {z : Binary64} (hx : x.isNaN = false) (hy : y.isNaN = false)
    (hz : z.isNaN = false) (hxy : x ≤ y) (hyz : y ≤ z) : x ≤ z :=
  Double.le_trans_of_not_isNaN hx hy hz hxy hyz

/-- A double that equals zero as a number is one of the zeros. -/
theorem beq_zero_iff : (x == 0) = true ↔ x = 0.0 ∨ x = -0.0 := by
  constructor
  · intro h
    obtain ⟨hx, -, hplace⟩ := beq_iff_placeOf_eq.1 h
    have hzero : placeOf (0 : Binary64).toFloat = 0 := rfl
    rw [hzero, placeOf_toFloat hx] at hplace
    rw [eq_zero_iff, eq_negZero_iff]
    omega
  · rintro (rfl | rfl) <;> decide

/-- Doubles that are equal as numbers are the same, if they are not zeros. -/
theorem eq_of_beq (h : (x == y) = true) (hy : (y == 0) = false) : x = y := by
  have hx := (beq_iff_placeOf_eq.1 h).1
  exact eq_of_toFloat_eq hx (Double.eq_of_beq h hy)

/-- Doubles that equal zero are equal to the same doubles. -/
theorem beq_congr_of_zero {z : Binary64} (hx : (x == 0) = true) : (z == x) = (z == 0) := by
  obtain ⟨hx, hzero, hplace⟩ := beq_iff_placeOf_eq.1 hx
  change (z.toFloat == x.toFloat) = (z.toFloat == (0 : Binary64).toFloat)
  rw [Bool.eq_iff_iff, beq_iff_placeOf_eq, beq_iff_placeOf_eq, hplace, hx, hzero]

/-! ## The total order -/

/-- One double stands below another in the total order. Numbers stand in numeric order, with the
negative zero below zero. What is not a number stands below all numbers if its sign bit is set and
above all of them if it is not; two such values stand in the order of their bits, which goes
downwards where the sign bit is set. -/
def StandsBelow (x y : Binary64) : Prop :=
  match x.isNaN, y.isNaN with
  | false, false => x < y ∨ x = -0.0 ∧ y = 0.0
  | true, false => x.isSigned = true
  | false, true => y.isSigned = false
  | true, true =>
    match x.isSigned, y.isSigned with
    | true, false => True
    | false, true => False
    | true, true => y.bits < x.bits
    | false, false => x.bits < y.bits

/-- The sign bit is the uppermost one. -/
theorem isSigned_iff : x.isSigned = true ↔ 2 ^ 63 ≤ x.bits.toNat := by
  rw [isSigned, decide_eq_true_iff, UInt64.le_iff_toNat_le]
  rfl

/-- The key of a double is its pattern, counted downwards from -1 where the sign bit is set. -/
theorem scoreKey_eq (x : Binary64) :
    scoreKey x = if x.bits.toNat < 2 ^ 63 then (x.bits.toNat : Int)
      else 2 ^ 63 - 1 - x.bits.toNat := by
  have hhalf : (0x8000000000000000 : Int) = 2 ^ 63 := by decide
  unfold scoreKey
  simp only [hhalf]
  split <;> split <;> omega

/-- With the sign bit, the key counts downwards. -/
theorem scoreKey_of_isSigned (hx : x.isSigned = true) :
    scoreKey x = 2 ^ 63 - 1 - (x.bits.toNat : Int) := by
  rw [scoreKey_eq, if_neg (Nat.not_lt.2 (isSigned_iff.1 hx))]

/-- Without the sign bit, the key is the pattern. -/
theorem scoreKey_of_not_isSigned (hx : x.isSigned = false) : scoreKey x = x.bits.toNat := by
  rw [scoreKey_eq, if_pos]
  rw [← Nat.not_le, ← isSigned_iff, hx]
  nofun

/-- The keys of numbers reach from that of the negative infinity to that of infinity. -/
theorem scoreKey_of_isNaN_eq_false (hx : x.isNaN = false) :
    -1 - 2047 * 2 ^ 52 ≤ scoreKey x ∧ scoreKey x ≤ 2047 * 2 ^ 52 := by
  have hbits := x.bits.toNat_lt
  have hnumber : ¬2047 * 2 ^ 52 < x.bits.toNat % 2 ^ 63 := by
    rw [← isNaN_iff, hx]
    nofun
  rw [scoreKey_eq]
  omega

/-- What is not a number, with the sign bit, has a key below those of numbers. -/
theorem scoreKey_lt_of_isSigned (hx : x.isNaN = true) (hsigned : x.isSigned = true) :
    scoreKey x < -1 - 2047 * 2 ^ 52 := by
  have hnan := isNaN_iff.1 hx
  have hlarge := isSigned_iff.1 hsigned
  have hbits := x.bits.toNat_lt
  rw [scoreKey_of_isSigned hsigned]
  omega

/-- What is not a number, without the sign bit, has a key above those of numbers. -/
theorem lt_scoreKey_of_not_isSigned (hx : x.isNaN = true) (hsigned : x.isSigned = false) :
    2047 * 2 ^ 52 < scoreKey x := by
  have hnan := isNaN_iff.1 hx
  rw [scoreKey_of_not_isSigned hsigned]
  omega

/-- Where keys are in order, so are numbers. -/
theorem le_of_scoreKey_le (hx : x.isNaN = false) (hy : y.isNaN = false)
    (h : scoreKey x ≤ scoreKey y) : x ≤ y := by
  rw [scoreKey_eq, scoreKey_eq] at h
  refine (le_iff_placeOf_le hx hy).2 ?_
  rw [placeOf_toFloat hx, placeOf_toFloat hy]
  omega

/-- Keys order numbers as the total order does. -/
theorem scoreKey_lt_iff_of_number (hx : x.isNaN = false) (hy : y.isNaN = false) :
    scoreKey x < scoreKey y ↔ x < y ∨ x = -0.0 ∧ y = 0.0 := by
  have hbits := x.bits.toNat_lt
  have hlt : x < y ↔ placeOf x.toFloat < placeOf y.toFloat := lt_iff_placeOf_lt hx hy
  rw [hlt, placeOf_toFloat hx, placeOf_toFloat hy, eq_negZero_iff, eq_zero_iff, scoreKey_eq,
    scoreKey_eq]
  omega

/-- Keys order doubles as the total order does. -/
theorem scoreKey_lt_iff : scoreKey x < scoreKey y ↔ StandsBelow x y := by
  unfold StandsBelow
  cases hx : x.isNaN with
  | false =>
    have hkey := scoreKey_of_isNaN_eq_false hx
    cases hy : y.isNaN with
    | false => exact scoreKey_lt_iff_of_number hx hy
    | true =>
      cases hsigned : y.isSigned with
      | false =>
        have hkey' := lt_scoreKey_of_not_isSigned hy hsigned
        exact iff_of_true (by omega) rfl
      | true =>
        have hkey' := scoreKey_lt_of_isSigned hy hsigned
        exact iff_of_false (by omega) nofun
  | true =>
    cases hy : y.isNaN with
    | false =>
      have hkey' := scoreKey_of_isNaN_eq_false hy
      cases hsigned : x.isSigned with
      | false =>
        have hkey := lt_scoreKey_of_not_isSigned hx hsigned
        exact iff_of_false (by omega) nofun
      | true =>
        have hkey := scoreKey_lt_of_isSigned hx hsigned
        exact iff_of_true (by omega) rfl
    | true =>
      cases hsigned : x.isSigned <;> cases hsigned' : y.isSigned
      · rw [scoreKey_of_not_isSigned hsigned, scoreKey_of_not_isSigned hsigned']
        exact Int.ofNat_lt.trans UInt64.lt_iff_toNat_lt.symm
      · have hkey := lt_scoreKey_of_not_isSigned hx hsigned
        have hkey' := scoreKey_lt_of_isSigned hy hsigned'
        exact iff_of_false (by omega) id
      · have hkey := scoreKey_lt_of_isSigned hx hsigned
        have hkey' := lt_scoreKey_of_not_isSigned hy hsigned'
        exact iff_of_true (by omega) trivial
      · rw [scoreKey_of_isSigned hsigned, scoreKey_of_isSigned hsigned']
        change _ ↔ y.bits < x.bits
        rw [UInt64.lt_iff_toNat_lt]
        omega

instance : DecidableRel StandsBelow := fun _ _ => decidable_of_iff _ scoreKey_lt_iff

end SearchGateway.Binary64
