import SearchGateway.Proofs.Double.Arithmetic

/-!
# Zeros of either sign

Two doubles that are equal as numbers are the same double, unless they are zeros
(`eq_of_beq`). A sum is the negative zero only if both summands are (`eq_negZero_of_add`): what
cancels out gives zero, and no sum of finite doubles is so small that rounding loses it. A quotient
may be lost, but it keeps its sign, so the negative zero comes only of a dividend whose sign bit is
set (`ne_negZero_div`).
-/

namespace SearchGateway.Double

open Float.Model (UnpackedFloat Format totalExponent)
open Float.Model.UnpackedFloat

variable {u v : UnpackedFloat} {s t : Sign} {m : Nat} {e : Int}

/-! ## Rounding to zero -/

/-- The significand and the exponent of a finite value fit a double, but for an exponent that may be
too large. -/
def InRange : UnpackedFloat → Prop
  | .finite _ m e _ => m < 2 ^ 53 ∧ -1074 ≤ e
  | _ => True

/-- What is finite and in range is not packed as a zero. -/
theorem repack_finite_ne_zero {hm : 0 < m} (h : InRange (.finite s m e hm)) :
    repack (.finite s m e hm) ≠ .zero t := by
  obtain ⟨hm53, he⟩ := h
  intro hzero
  rcases Int.lt_or_le 971 e with hlarge | hlarge
  · rw [repack_of_large hlarge] at hzero
    cases hzero
  · have hexponents : Format.binary64.exponentBits = 11 := rfl
    have hmantissas : Format.binary64.mantissaBitsWithoutImplicit = 52 := rfl
    have hinf : ¬2 ^ 11 ≤ (e + 1023 + 52).toNat + 1 := by omega
    have hpack : pack Format.binary64 (.finite s m e hm) =
        if m.log2 + 1 = 53 then
          packComponents Format.binary64 s (.ofNat _ (e + 1023 + 52).toNat) (.ofNat _ m)
        else packComponents Format.binary64 s 0#_ (.ofNat _ m) := if_neg hinf
    unfold repack at hzero
    rcases unpack_cases (pack Format.binary64 (.finite s m e hm)) with
      ⟨-, -, hu⟩ | ⟨-, -, hu⟩ | ⟨hexponent, hmantissa, -⟩ | ⟨_, _, _, hu, -⟩
    · cases hu.symm.trans hzero
    · cases hu.symm.trans hzero
    · rw [hpack] at hexponent hmantissa
      split at hexponent
      · rw [unpackExponent_packComponents, BitVec.toNat_ofNat, hexponents] at hexponent
        omega
      · next hlog =>
        rw [if_neg hlog, unpackMantissa_packComponents, BitVec.toNat_ofNat,
          hmantissas] at hmantissa
        have hlt : m.log2 < 53 := (Nat.log2_lt (Nat.ne_of_gt hm)).2 hm53
        have hm52 : m < 2 ^ 52 := (Nat.log2_lt (Nat.ne_of_gt hm)).1 (by omega)
        omega
    · cases hu.symm.trans hzero

/-- In range, nothing but a zero is packed as one. -/
theorem repack_eq_zero_iff (hu : InRange u) : repack u = .zero t ↔ u = .zero t := by
  cases u with
  | notANumber =>
    have hrepack : repack .notANumber = .notANumber := rfl
    rw [hrepack]
  | infinity s =>
    have hrepack : repack (.infinity s) = .infinity s := by cases s <;> rfl
    rw [hrepack]
  | zero s =>
    have hrepack : repack (.zero s) = .zero s := by cases s <;> rfl
    rw [hrepack]
  | finite s m e hm => exact iff_of_false (repack_finite_ne_zero hu) nofun

/-- What is unpacked is in range. -/
theorem Canonical.inRange (h : Canonical u) : InRange u := by
  cases u with
  | finite s m e hm => exact ⟨h.1, h.2.1⟩
  | notANumber | zero | infinity => trivial

/-- Shifting to the exponent of a double leaves no more bits than it has. -/
theorem div_excess_lt (m : Nat) (e : Int) : m / 2 ^ excess m e < 2 ^ 53 := by
  have hlog : m < 2 ^ (m.log2 + 1) := Nat.lt_log2_self
  have hexcess : m.log2 + 1 ≤ 53 + excess m e := by
    simp only [excess, targetExponent_eq, totalExponent]
    omega
  rw [Nat.div_lt_iff_lt_mul (Nat.two_pow_pos _), ← Nat.pow_add]
  exact hlog.trans_le (Nat.pow_le_pow_right (by decide) hexcess)

/-- Shifting loses nothing altogether whose exponent is in range. -/
theorem div_excess_pos (hm : 0 < m) (he : -1074 ≤ e) : 0 < m / 2 ^ excess m e := by
  have hexcess : excess m e ≤ m.log2 := by
    simp only [excess, targetExponent_eq, totalExponent]
    omega
  refine Nat.div_pos ?_ (Nat.two_pow_pos _)
  exact (Nat.pow_le_pow_right (by decide) hexcess).trans (Nat.log2_self_le (Nat.ne_of_gt hm))

/-- Rounding brings a value in range, of the sign that it is given, and a zero at most from an
exponent below all of a double. -/
theorem roundWithAccuracy_cases (s : Sign) (m : Nat) (e : Int) (acc : Accuracy) :
    (roundWithAccuracy Format.binary64 s m e acc = .zero s ∧ (m = 0 ∨ e < -1074)) ∨
      ∃ m' e' hm', roundWithAccuracy Format.binary64 s m e acc = .finite s m' e' hm' ∧
        InRange (.finite s m' e' hm') := by
  have hexponent : -1074 ≤ e + excess m e := by
    simp only [excess, targetExponent_eq]
    omega
  have hrounded := (roundedMantissa_bounds
    (ExtendedMantissa.ofMantissaAndAccuracy m acc >>> excess m e)).1
  rw [mantissa_shiftRight, mantissa_ofMantissaAndAccuracy] at hrounded
  rw [roundWithAccuracy_eq]
  generalize (ExtendedMantissa.ofMantissaAndAccuracy m acc >>>
    excess m e).roundedMantissa = r at hrounded
  dsimp only
  split
  · next hzero =>
    refine .inl ⟨rfl, ?_⟩
    by_contra! hin
    have hpos := div_excess_pos (Nat.pos_of_ne_zero hin.1) hin.2
    exact Nat.ne_of_gt (div_excess_pos (hpos.trans_le hrounded) hexponent) hzero
  · next hpos =>
    refine .inr ⟨_, _, Nat.pos_of_ne_zero hpos, rfl, div_excess_lt _ _, ?_⟩
    exact hexponent.trans (Int.le_add_of_nonneg_right (Int.natCast_nonneg _))

/-- What is in range and not zero is not rounded to a zero. -/
theorem round_cases (s : Sign) (hm : m ≠ 0) (he : -1074 ≤ e) :
    ∃ m' e' hm', UnpackedFloat.round Format.binary64 s m e = .finite s m' e' hm' ∧
      InRange (.finite s m' e' hm') := by
  simp only [UnpackedFloat.round, decreaseExponent]
  rcases roundWithAccuracy_cases s
      (m <<< (e - Format.binary64.targetExponent (totalExponent m e)).toNat)
      (e - (e - Format.binary64.targetExponent (totalExponent m e)).toNat) .exact with
    ⟨-, hzero | hlow⟩ | hfinite
  · rw [Nat.shiftLeft_eq] at hzero
    exact absurd hzero (Nat.mul_ne_zero hm (Nat.ne_of_gt (Nat.two_pow_pos _)))
  · rw [targetExponent_eq] at hlow
    omega
  · exact hfinite

/-! ## Sums -/

/-- Rounding an integer in range brings the negative zero only of zero itself. -/
theorem normalize_cases (z : Int) (he : -1074 ≤ e) (s : Sign) :
    (z = 0 ∧ UnpackedFloat.normalize Format.binary64 z e s = .zero s) ∨
      ∃ t m' e' hm', UnpackedFloat.normalize Format.binary64 z e s = .finite t m' e' hm' ∧
        InRange (.finite t m' e' hm') := by
  unfold UnpackedFloat.normalize
  split
  · next hneg =>
    rw [compare_lt_iff_lt] at hneg
    exact .inr ⟨_, round_cases _ (by omega) he⟩
  · next hzero => exact .inl ⟨compare_eq_iff_eq.1 hzero, rfl⟩
  · next hpos =>
    rw [compare_gt_iff_gt] at hpos
    exact .inr ⟨_, round_cases _ (by omega) he⟩

/-- A sum of values in range is in range, and the negative zero only if both are. -/
theorem add_cases (hu : InRange u) (hv : InRange v) :
    InRange (add Format.binary64 u v) ∧
      (add Format.binary64 u v = .zero .negative → u = .zero .negative ∧ v = .zero .negative) := by
  cases u with
  | notANumber => exact ⟨trivial, by rintro ⟨⟩⟩
  | infinity s =>
    cases v with
    | infinity t => cases s <;> cases t <;> exact ⟨trivial, by rintro ⟨⟩⟩
    | notANumber | zero | finite => exact ⟨trivial, by rintro ⟨⟩⟩
  | zero s =>
    cases v with
    | notANumber => exact ⟨trivial, by rintro ⟨⟩⟩
    | infinity t => exact ⟨trivial, by rintro ⟨⟩⟩
    | zero t =>
      cases s with
      | positive => cases t <;> exact ⟨trivial, by rintro ⟨⟩⟩
      | negative =>
        cases t with
        | positive => exact ⟨trivial, by rintro ⟨⟩⟩
        | negative => exact ⟨trivial, fun _ => ⟨rfl, rfl⟩⟩
    | finite t n f hn => exact ⟨hv, by rintro ⟨⟩⟩
  | finite s m e hm =>
    cases v with
    | notANumber => exact ⟨trivial, by rintro ⟨⟩⟩
    | infinity t => exact ⟨trivial, by rintro ⟨⟩⟩
    | zero t => exact ⟨hu, by rintro ⟨⟩⟩
    | finite t n f hn =>
      simp only [add, decreaseExponent]
      rcases normalize_cases _ (le_min hu.2 hv.2) .positive with
        ⟨-, hzero⟩ | ⟨_, _, _, _, hfinite, hrange⟩
      · rw [hzero]
        exact ⟨trivial, by rintro ⟨⟩⟩
      · rw [hfinite]
        exact ⟨hrange, by rintro ⟨⟩⟩

/-! ## Quotients -/

/-- A quotient by what is at least one is in range, and the negative zero only if the dividend has
its sign. -/
theorem div_cases (hv : AtLeastOne v) :
    InRange (div Format.binary64 u v) ∧ (div Format.binary64 u v = .zero .negative →
      u = .zero .negative ∨ ∃ m e hm, u = .finite .negative m e hm) := by
  cases v with
  | notANumber => cases hv
  | zero t => cases hv
  | infinity t =>
    obtain rfl : t = .positive := hv
    cases u with
    | notANumber | infinity => exact ⟨trivial, by rintro ⟨⟩⟩
    | zero s =>
      cases s with
      | positive => exact ⟨trivial, by rintro ⟨⟩⟩
      | negative => exact ⟨trivial, fun _ => .inl rfl⟩
    | finite s m e hm =>
      cases s with
      | positive => exact ⟨trivial, by rintro ⟨⟩⟩
      | negative => exact ⟨trivial, fun _ => .inr ⟨_, _, _, rfl⟩⟩
  | finite t n f hn =>
    obtain ⟨rfl, -⟩ := hv
    cases u with
    | notANumber => exact ⟨trivial, by rintro ⟨⟩⟩
    | infinity s => exact ⟨trivial, by rintro ⟨⟩⟩
    | zero s =>
      cases s with
      | positive => exact ⟨trivial, by rintro ⟨⟩⟩
      | negative => exact ⟨trivial, fun _ => .inl rfl⟩
    | finite s m e hm =>
      simp only [div]
      rcases roundWithAccuracy_cases (s / .positive) (divCore Format.binary64 m e n f).1
          (divCore Format.binary64 m e n f).2.1 (divCore Format.binary64 m e n f).2.2 with
        ⟨hzero, -⟩ | ⟨_, _, _, hfinite, hrange⟩
      · rw [hzero]
        cases s with
        | positive => exact ⟨trivial, by rintro ⟨⟩⟩
        | negative => exact ⟨trivial, fun _ => .inr ⟨_, _, _, rfl⟩⟩
      · rw [hfinite]
        exact ⟨hrange, by rintro ⟨⟩⟩

/-! ## Doubles -/

variable {x y : Float}

/-- The negative zero is what unpacks to it. -/
theorem unpack_eq_negZero_iff : x.toModel.unpack = .zero .negative ↔ x = -0.0 := by
  constructor
  · intro h
    have hx : x.isNaN = false := isNaN_unpacked (by rw [h]; rfl)
    have hplace : placeOf x = 0 := by
      rw [placeOf, h]
      rfl
    rw [placeOf_eq hx] at hplace
    have hsign : x.toBits.toNat ≠ 0 := by
      intro hbits
      rw [eq_zero_iff.2 hbits] at h
      cases h
    rw [eq_negZero_iff]
    omega
  · rintro rfl
    rfl

/-- A sum is the negative zero only if both summands are. -/
theorem eq_negZero_of_add (h : x + y = -0.0) : x = -0.0 ∧ y = -0.0 := by
  have hx : InRange x.toModel.unpack := (canonical_unpack _).inRange
  have hy : InRange y.toModel.unpack := (canonical_unpack _).inRange
  obtain ⟨hrange, hboth⟩ := add_cases hx hy
  rw [← unpack_eq_negZero_iff] at h
  rw [← unpack_eq_negZero_iff, ← unpack_eq_negZero_iff]
  exact hboth ((repack_eq_zero_iff hrange).1 h)

/-- A quotient of a number that has no sign, not even that of zero, by one that is at least one is
not the negative zero. -/
theorem ne_negZero_div (hnonneg : 0 ≤ x) (hne : x ≠ -0.0) (hy : AtLeastOne y.toModel.unpack) :
    x / y ≠ -0.0 := by
  intro h
  obtain ⟨hrange, hsign⟩ := div_cases (u := x.toModel.unpack) hy
  rw [← unpack_eq_negZero_iff] at h
  rcases hsign ((repack_eq_zero_iff hrange).1 h) with hzero | ⟨m, e, hm, hfinite⟩
  · exact hne (unpack_eq_negZero_iff.1 hzero)
  · have hx : x.isNaN = false := isNaN_unpacked (by rw [hfinite]; rfl)
    rw [le_iff_placeOf_le (by decide) hx, placeOf, placeOf, hfinite] at hnonneg
    have hcanonical : Canonical (.finite .negative m e hm) := by
      rw [← hfinite]
      exact canonical_unpack _
    have hbounds := hcanonical.bounds
    change 0 ≤ -((e + 1074) * 2 ^ 52 + (m : Int)) at hnonneg
    omega

/-! ## Equal numbers -/

/-- Doubles are equal as numbers if they are numbers in one place. -/
theorem beq_iff_placeOf_eq : (x == y) = true ↔
    x.isNaN = false ∧ y.isNaN = false ∧ placeOf x = placeOf y := by
  change (x.toModel.unpack.compare y.toModel.unpack == some .eq) = true ↔ _
  cases hx : x.isNaN with
  | true =>
    have hnone : x.toModel.unpack.compare y.toModel.unpack = none := by
      change x.toModel.unpack.isNaN = true at hx
      generalize x.toModel.unpack = u at hx
      cases u <;> first | rfl | cases hx
    simp [hnone]
  | false =>
    cases hy : y.isNaN with
    | true =>
      have hnone : x.toModel.unpack.compare y.toModel.unpack = none := by
        change y.toModel.unpack.isNaN = true at hy
        generalize y.toModel.unpack = v at hy
        cases v <;> cases hy
        cases x.toModel.unpack <;> rfl
      simp [hnone]
    | false =>
      rw [compare_unpack hx hy, beq_iff_eq, Option.some_inj, compare_eq_iff_eq]
      simp

/-- A double that equals zero as a number is one of the zeros. -/
theorem beq_zero_iff : (x == 0) = true ↔ x = 0.0 ∨ x = -0.0 := by
  constructor
  · intro h
    obtain ⟨hx, -, hplace⟩ := beq_iff_placeOf_eq.1 h
    have hzero : placeOf 0 = 0 := rfl
    rw [hzero, placeOf_eq hx] at hplace
    rw [eq_zero_iff, eq_negZero_iff]
    omega
  · rintro (rfl | rfl) <;> decide

/-- Doubles that are equal as numbers are the same, if they are not zeros. -/
theorem eq_of_beq (h : (x == y) = true) (hy : (y == 0) = false) : x = y := by
  obtain ⟨hx, hy', hplace⟩ := beq_iff_placeOf_eq.1 h
  have hne : ¬(y = 0.0 ∨ y = -0.0) := by
    rw [← beq_zero_iff, hy]
    nofun
  rw [eq_zero_iff, eq_negZero_iff] at hne
  rw [placeOf_eq hx, placeOf_eq hy'] at hplace
  rw [← Float.toBits_inj, ← UInt64.toNat_inj]
  omega

end SearchGateway.Double
