import Mathlib

/-!
# The numeric order of doubles

A double is compared by its sign, its exponent and its significand, which `unpack` takes apart. The
pattern of a double holds the three one behind the other, so its numeric value and its pattern
order doubles alike: `place` is the signed number of steps from zero to a double, `place_unpack`
reads it off the pattern, and `le_iff_placeOf_le` says that it decides the numeric order.
-/

namespace SearchGateway.Double

open Float.Model (UnpackedFloat Format)
open Float.Model.UnpackedFloat

/-! ## Unpacked doubles -/

/-- The signed number of steps from zero to a double, infinities counted as the step behind the
greatest finite double. -/
def place : UnpackedFloat → Int
  | .notANumber => 0
  | .zero _ => 0
  | .infinity s => s.apply (2047 * 2 ^ 52)
  | .finite s m e _ => s.apply ((e + 1074) * 2 ^ 52 + m)

/-- The exponent is the least one, or the significand has all its bits; both are in range. -/
def Canonical : UnpackedFloat → Prop
  | .finite _ m e _ => m < 2 ^ 53 ∧ -1074 ≤ e ∧ e ≤ 971 ∧ (e = -1074 ∨ 2 ^ 52 ≤ m)
  | _ => True

/-- Canonical values of one sign compare by exponent, then by significand, and so do their
places. -/
theorem compare_lex {m₁ m₂ : Nat} {e₁ e₂ : Int} (hm₁ : m₁ < 2 ^ 53) (hm₂ : m₂ < 2 ^ 53)
    (he₁ : -1074 ≤ e₁) (he₂ : -1074 ≤ e₂) (h₁ : e₁ = -1074 ∨ 2 ^ 52 ≤ m₁)
    (h₂ : e₂ = -1074 ∨ 2 ^ 52 ≤ m₂) :
    (compare e₁ e₂).then (compare m₁ m₂) =
      compare ((e₁ + 1074) * 2 ^ 52 + (m₁ : Int)) ((e₂ + 1074) * 2 ^ 52 + (m₂ : Int)) := by
  rcases lt_trichotomy e₁ e₂ with he | rfl | he
  · have hlt : (e₁ + 1074) * 2 ^ 52 + (m₁ : Int) < (e₂ + 1074) * 2 ^ 52 + (m₂ : Int) := by omega
    rw [compare_lt_iff_lt.2 he, compare_lt_iff_lt.2 hlt]
    rfl
  · rw [compare_eq_iff_eq.2 rfl, Ordering.eq_then]
    rcases lt_trichotomy m₁ m₂ with hm | rfl | hm
    · rw [compare_lt_iff_lt.2 hm, compare_lt_iff_lt.2 (by omega)]
    · rw [compare_eq_iff_eq.2 rfl, compare_eq_iff_eq.2 rfl]
    · rw [compare_gt_iff_gt.2 hm, compare_gt_iff_gt.2 (by omega)]
  · have hlt : (e₂ + 1074) * 2 ^ 52 + (m₂ : Int) < (e₁ + 1074) * 2 ^ 52 + (m₁ : Int) := by omega
    rw [compare_gt_iff_gt.2 he, compare_gt_iff_gt.2 hlt]
    rfl

/-- How far a canonical finite value is from zero: not at all, and not as far as infinity. -/
theorem Canonical.bounds {s : Sign} {m : Nat} {e : Int} {hm : 0 < m}
    (h : Canonical (.finite s m e hm)) :
    0 < (e + 1074) * 2 ^ 52 + (m : Int) ∧ (e + 1074) * 2 ^ 52 + (m : Int) < 2047 * 2 ^ 52 := by
  obtain ⟨hm', he, he', -⟩ := h
  omega

/-- A lesser and a greater integer compare so. -/
theorem some_compare_of_lt {a b : Int} (h : a < b) : some Ordering.lt = some (compare a b) :=
  congrArg some (compare_lt_iff_lt.2 h).symm

/-- A greater and a lesser integer compare so. -/
theorem some_compare_of_gt {a b : Int} (h : b < a) : some Ordering.gt = some (compare a b) :=
  congrArg some (compare_gt_iff_gt.2 h).symm

/-- Negation turns the order of two integers around. -/
theorem compare_neg_neg (a b : Int) : compare (-a) (-b) = (compare a b).swap := by
  rcases lt_trichotomy a b with h | rfl | h
  · rw [compare_lt_iff_lt.2 h, compare_gt_iff_gt.2 (by omega)]
    rfl
  · rw [compare_eq_iff_eq.2 rfl, compare_eq_iff_eq.2 rfl]
    rfl
  · rw [compare_gt_iff_gt.2 h, compare_lt_iff_lt.2 (by omega)]
    rfl

/-- Canonical values compare as their places do. -/
theorem compare_eq_compare_place {u v : UnpackedFloat} (hu : Canonical u) (hv : Canonical v)
    (hun : u.isNaN = false) (hvn : v.isNaN = false) :
    u.compare v = some (compare (place u) (place v)) := by
  cases u with
  | notANumber => cases hun
  | zero s =>
    cases v with
    | notANumber => cases hvn
    | zero t => rfl
    | infinity t => cases t <;> rfl
    | finite t m e hm =>
      have hb := hv.bounds
      cases t with
      | negative => exact some_compare_of_gt (by simp only [place, Sign.apply]; omega)
      | positive => exact some_compare_of_lt (by simp only [place, Sign.apply]; omega)
  | infinity s =>
    cases v with
    | notANumber => cases hvn
    | zero t => cases s <;> rfl
    | infinity t => cases s <;> cases t <;> rfl
    | finite t m e hm =>
      have hb := hv.bounds
      cases s with
      | negative =>
        exact some_compare_of_lt (by cases t <;> simp only [place, Sign.apply] <;> omega)
      | positive =>
        exact some_compare_of_gt (by cases t <;> simp only [place, Sign.apply] <;> omega)
  | finite s m e hm =>
    have hb := hu.bounds
    cases v with
    | notANumber => cases hvn
    | zero t =>
      cases s with
      | negative => exact some_compare_of_lt (by simp only [place, Sign.apply]; omega)
      | positive => exact some_compare_of_gt (by simp only [place, Sign.apply]; omega)
    | infinity t =>
      cases t with
      | negative =>
        exact some_compare_of_gt (by cases s <;> simp only [place, Sign.apply] <;> omega)
      | positive =>
        exact some_compare_of_lt (by cases s <;> simp only [place, Sign.apply] <;> omega)
    | finite t n f hn =>
      have hc := hv.bounds
      have hlex := compare_lex hu.1 hv.1 hu.2.1 hv.2.1 hu.2.2.2 hv.2.2.2
      cases s with
      | negative =>
        cases t with
        | negative =>
          refine congrArg some ?_
          rw [hlex, ← compare_neg_neg]
          rfl
        | positive => exact some_compare_of_lt (by simp only [place, Sign.apply]; omega)
      | positive =>
        cases t with
        | negative => exact some_compare_of_gt (by simp only [place, Sign.apply]; omega)
        | positive => exact congrArg some hlex

/-! ## Patterns -/

/-- The three fields of a pattern stand one behind the other. -/
theorem toNat_eq_fields (b : BitVec Format.binary64.numBits) :
    b.toNat = (unpackSign b).toNat * 2 ^ 63 + (unpackExponent b).toNat * 2 ^ 52 +
      (unpackMantissa b).toNat := by
  have hmantissa : (unpackMantissa b).toNat = b.toNat % 2 ^ 52 := by
    simp [unpackMantissa, BitVec.extractLsb_toNat]
  have hexponent : (unpackExponent b).toNat = b.toNat / 2 ^ 52 % 2 ^ 11 := by
    simp [unpackExponent, BitVec.extractLsb_toNat, Nat.shiftRight_eq_div_pow]
  have hsign : (unpackSign b).toNat = b.toNat / 2 ^ 63 % 2 := by
    simp [unpackSign, BitVec.extractLsb_toNat, Nat.shiftRight_eq_div_pow]
  have hb : b.toNat < 2 ^ 64 := b.isLt
  omega

/-- The sign of a pattern is its uppermost bit. -/
theorem ofBitVec_unpackSign (b : BitVec Format.binary64.numBits) :
    Sign.ofBitVec (unpackSign b) = if b.toNat < 2 ^ 63 then .positive else .negative := by
  have hfields := toNat_eq_fields b
  have hexponent : (unpackExponent b).toNat < 2 ^ 11 := (unpackExponent b).isLt
  have hmantissa : (unpackMantissa b).toNat < 2 ^ 52 := (unpackMantissa b).isLt
  unfold Sign.ofBitVec
  refine if_congr ?_ rfl rfl
  rw [← BitVec.toNat_inj, BitVec.toNat_ofNat]
  omega

/-- The one bit before the fraction of a normal double. -/
theorem toNat_hidden_append (m : BitVec 52) : (1#1 ++ m).toNat = 2 ^ 52 + m.toNat := by
  have hm : m.toNat < 2 ^ 52 := m.isLt
  rw [BitVec.toNat_append, Nat.shiftLeft_eq, BitVec.toNat_ofNat, Nat.one_mod, Nat.one_mul,
    Nat.or_comm, Nat.or_two_pow_eq_add_of_lt hm, Nat.add_comm]

/-- What a pattern unpacks to, by its fields. A finite value is canonical, and its place is what
exponent and fraction say together. -/
theorem unpack_cases (b : BitVec Format.binary64.numBits) :
    ((unpackExponent b).toNat = 2047 ∧ (unpackMantissa b).toNat = 0 ∧
        unpack Format.binary64 b = .infinity (Sign.ofBitVec (unpackSign b))) ∨
      ((unpackExponent b).toNat = 2047 ∧ (unpackMantissa b).toNat ≠ 0 ∧
        unpack Format.binary64 b = .notANumber) ∨
      ((unpackExponent b).toNat = 0 ∧ (unpackMantissa b).toNat = 0 ∧
        unpack Format.binary64 b = .zero (Sign.ofBitVec (unpackSign b))) ∨
      ∃ m e hm, unpack Format.binary64 b = .finite (Sign.ofBitVec (unpackSign b)) m e hm ∧
        Canonical (.finite (Sign.ofBitVec (unpackSign b)) m e hm) ∧
        (e + 1074) * 2 ^ 52 + (m : Int) =
          (unpackExponent b).toNat * 2 ^ 52 + (unpackMantissa b).toNat := by
  have hexponent : (unpackExponent b).toNat < 2 ^ 11 := (unpackExponent b).isLt
  have hmantissa : (unpackMantissa b).toNat < 2 ^ 52 := (unpackMantissa b).isLt
  unfold unpack
  dsimp only
  split
  · next hfull =>
    split
    · next hzero => exact .inl ⟨by rw [hfull]; rfl, by rw [hzero]; rfl, rfl⟩
    · next hzero =>
      have hzero : (unpackMantissa b).toNat ≠ 0 := fun h => hzero (BitVec.eq_of_toNat_eq h)
      exact .inr (.inl ⟨by rw [hfull]; rfl, hzero, rfl⟩)
  · next hfull =>
    have hfull : (unpackExponent b).toNat ≠ 2047 := fun h => hfull (BitVec.eq_of_toNat_eq h)
    refine .inr (.inr ?_)
    split
    · next hexp =>
      have hexp : (unpackExponent b).toNat = 0 := by rw [hexp]; rfl
      split
      · next hzero => exact .inl ⟨hexp, by rw [hzero]; rfl, rfl⟩
      · next hzero =>
        have hzero : (unpackMantissa b).toNat ≠ 0 := fun h => hzero (BitVec.eq_of_toNat_eq h)
        refine .inr ⟨_, _, Nat.pos_of_ne_zero hzero, rfl, ?_, ?_⟩
        · simp only [Canonical, Format.exponentBias]
          omega
        · simp only [Format.exponentBias]
          omega
    · next hexp =>
      have hexp : (unpackExponent b).toNat ≠ 0 := fun h => hexp (BitVec.eq_of_toNat_eq h)
      have hhidden := toNat_hidden_append (unpackMantissa b)
      refine .inr ⟨_, _, by rw [hhidden]; omega, rfl, ?_, ?_⟩
      · simp only [Canonical, Format.exponentBias]
        omega
      · simp only [Format.exponentBias]
        omega

/-- What is unpacked is canonical. -/
theorem canonical_unpack (b : BitVec Format.binary64.numBits) :
    Canonical (unpack Format.binary64 b) := by
  rcases unpack_cases b with ⟨-, -, h⟩ | ⟨-, -, h⟩ | ⟨-, -, h⟩ | ⟨m, e, hm, h, hcanonical, -⟩
  · rw [h]
    trivial
  · rw [h]
    trivial
  · rw [h]
    trivial
  · rw [h]
    exact hcanonical

/-- The place of a number is its pattern, counted downwards where the sign bit is set. -/
theorem place_unpack (b : BitVec Format.binary64.numBits)
    (h : (unpack Format.binary64 b).isNaN = false) :
    place (unpack Format.binary64 b) =
      if b.toNat < 2 ^ 63 then (b.toNat : Int) else 2 ^ 63 - b.toNat := by
  have hfields := toNat_eq_fields b
  have hexponent : (unpackExponent b).toNat < 2 ^ 11 := (unpackExponent b).isLt
  have hmantissa : (unpackMantissa b).toNat < 2 ^ 52 := (unpackMantissa b).isLt
  have hsign : (unpackSign b).toNat < 2 ^ 1 := (unpackSign b).isLt
  rcases unpack_cases b with ⟨he, hz, hu⟩ | ⟨-, -, hu⟩ | ⟨he, hz, hu⟩ | ⟨m, e, hm, hu, -, hplace⟩
  · rw [hu, ofBitVec_unpackSign]
    split <;> simp only [place, Sign.apply] <;> omega
  · rw [hu] at h
    cases h
  · rw [hu]
    split <;> simp only [place] <;> omega
  · rw [hu, ofBitVec_unpackSign]
    split <;> simp only [place, Sign.apply] <;> omega

/-! ## Doubles -/

/-- The place of a double in numeric order. -/
def placeOf (x : Float) : Int := place x.toModel.unpack

variable {x y : Float}

/-- Numbers compare as their places do. -/
theorem compare_unpack (hx : x.isNaN = false) (hy : y.isNaN = false) :
    x.toModel.unpack.compare y.toModel.unpack = some (compare (placeOf x) (placeOf y)) :=
  compare_eq_compare_place (canonical_unpack _) (canonical_unpack _) hx hy

/-- The numeric order of numbers is that of their places. -/
theorem le_iff_placeOf_le (hx : x.isNaN = false) (hy : y.isNaN = false) :
    x ≤ y ↔ placeOf x ≤ placeOf y := by
  change x.le y = true ↔ _
  simp only [Float.le, decide_eq_true_eq]
  change (x.toModel.unpack.compare y.toModel.unpack).any (·.isLE) = true ↔ _
  rw [compare_unpack hx hy, Option.any_some, Int.isLE_compare]

/-- The strict numeric order of numbers is that of their places. -/
theorem lt_iff_placeOf_lt (hx : x.isNaN = false) (hy : y.isNaN = false) :
    x < y ↔ placeOf x < placeOf y := by
  change x.lt y = true ↔ _
  simp only [Float.lt, decide_eq_true_eq]
  change (x.toModel.unpack.compare y.toModel.unpack == some .lt) = true ↔ _
  rw [compare_unpack hx hy, beq_iff_eq, Option.some_inj, compare_lt_iff_lt]

/-- The numeric order of numbers is transitive. -/
theorem le_trans_of_not_isNaN {z : Float} (hx : x.isNaN = false) (hy : y.isNaN = false)
    (hz : z.isNaN = false) (hxy : x ≤ y) (hyz : y ≤ z) : x ≤ z := by
  rw [le_iff_placeOf_le hx hy] at hxy
  rw [le_iff_placeOf_le hy hz] at hyz
  rw [le_iff_placeOf_le hx hz]
  exact hxy.trans hyz

/-- The place of a number is its pattern, counted downwards where the sign bit is set. -/
theorem placeOf_eq (hx : x.isNaN = false) :
    placeOf x = if x.toBits.toNat < 2 ^ 63 then (x.toBits.toNat : Int)
      else 2 ^ 63 - x.toBits.toNat :=
  place_unpack _ hx

/-- The pattern of the negative zero is the sign bit alone. -/
theorem eq_negZero_iff : x = -0.0 ↔ x.toBits.toNat = 2 ^ 63 := by
  rw [← Float.toBits_inj, ← UInt64.toNat_inj]
  rfl

/-- The pattern of zero is zero. -/
theorem eq_zero_iff : x = 0.0 ↔ x.toBits.toNat = 0 := by
  rw [← Float.toBits_inj, ← UInt64.toNat_inj]
  rfl

end SearchGateway.Double
