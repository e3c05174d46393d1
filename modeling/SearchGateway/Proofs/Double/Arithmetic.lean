import SearchGateway.Proofs.Double.Rounding

/-!
# What arithmetic on doubles keeps

A fused score is the sum of two quotients by a divisor that is at least one. Such a quotient is no
greater than its dividend, so a finite one stays finite (`isFinite_div`); the sum of two finite
doubles may be infinite, but is a number (`isNaN_add`). The divisor is the sum of two counts, of
which the second is not zero (`atLeastOne_add_toFloat`).

All three are proved of the exact operation first, and taken over to the double that the result is
packed into.
-/

namespace SearchGateway.Double

open Float.Model (UnpackedFloat Format totalExponent)
open Float.Model.UnpackedFloat

/-! ## Packing -/

variable {u v : UnpackedFloat} {s : Sign} {m : Nat} {e : Int}

/-- What an unpacked value comes back as after it has been packed. -/
def repack (u : UnpackedFloat) : UnpackedFloat := unpack Format.binary64 (pack Format.binary64 u)

/-- A value whose exponent is too large for a double is packed as an infinity. -/
theorem repack_of_large {hm : 0 < m} (he : 971 < e) : repack (.finite s m e hm) = .infinity s := by
  have hlarge : 2 ^ 11 ≤ (e + 1023 + 52).toNat + 1 := by omega
  have hpack : pack Format.binary64 (.finite s m e hm) = packedInfinity Format.binary64 s :=
    if_pos hlarge
  rw [repack, hpack]
  cases s <;> rfl

/-- The exponent of a packed finite value in range is not the one of infinities. -/
theorem unpackExponent_pack_ne (s : Sign) (hm : 0 < m) (he : e ≤ 971) :
    (unpackExponent (pack Format.binary64 (.finite s m e hm))).toNat ≠ 2047 := by
  have hlarge : ¬2 ^ 11 ≤ (e + 1023 + 52).toNat + 1 := by omega
  have hwidth : Format.binary64.exponentBits = 11 := rfl
  have hpack : pack Format.binary64 (.finite s m e hm) =
      if m.log2 + 1 = 53 then
        packComponents Format.binary64 s (.ofNat _ (e + 1023 + 52).toNat) (.ofNat _ m)
      else packComponents Format.binary64 s 0#_ (.ofNat _ m) := if_neg hlarge
  rw [hpack]
  split
  · rw [unpackExponent_packComponents, BitVec.toNat_ofNat, hwidth]
    omega
  · rw [unpackExponent_packComponents]
    decide

/-- A finite value in range stays finite when it is packed. -/
theorem isFinite_repack_of_le {hm : 0 < m} (he : e ≤ 971) :
    (repack (.finite s m e hm)).isFinite = true := by
  have hexponent := unpackExponent_pack_ne s hm he
  unfold repack
  rcases unpack_cases (pack Format.binary64 (.finite s m e hm)) with
    ⟨h, -, -⟩ | ⟨h, -⟩ | ⟨-, -, hu⟩ | ⟨m', e', hm', hu, -⟩
  · exact absurd h hexponent
  · exact absurd h hexponent
  · rw [hu]
    rfl
  · rw [hu]
    rfl

/-- What is finite is a number. -/
theorem isNaN_unpacked (h : u.isFinite = true) : u.isNaN = false := by
  cases u with
  | notANumber => cases h
  | infinity s => rfl
  | zero s => rfl
  | finite s m e hm => rfl

/-- Packing makes no number something that is none. -/
theorem isNaN_repack (h : u.isNaN = false) : (repack u).isNaN = false := by
  cases u with
  | notANumber => cases h
  | infinity s => cases s <;> rfl
  | zero s => cases s <;> rfl
  | finite s m e hm =>
    rcases Int.lt_or_le 971 e with he | he
    · rw [repack_of_large he]
      rfl
    · exact isNaN_unpacked (isFinite_repack_of_le he)

/-- A value in range whose significand has all its bits is packed with its exponent, and without the
uppermost bit. -/
theorem pack_of_normal (s : Sign) (hm : 0 < m) (hlow : 2 ^ 52 ≤ m) (hhigh : m < 2 ^ 53)
    (he : e ≤ 971) :
    pack Format.binary64 (.finite s m e hm) =
      packComponents Format.binary64 s (.ofNat _ (e + 1023 + 52).toNat) (.ofNat _ m) := by
  have hlarge : ¬2 ^ 11 ≤ (e + 1023 + 52).toNat + 1 := by omega
  have hlog : m.log2 + 1 = 53 := by
    have hge := (Nat.le_log2 (Nat.ne_of_gt hm)).2 hlow
    have hlt := (Nat.log2_lt (Nat.ne_of_gt hm)).2 hhigh
    omega
  exact (if_neg hlarge).trans (if_pos hlog)

/-- What is at least one stays so when it is packed. -/
theorem atLeastOne_repack (h : AtLeastOne u) : AtLeastOne (repack u) := by
  cases u with
  | notANumber => cases h
  | zero s => cases h
  | infinity s =>
    obtain rfl : s = .positive := h
    rfl
  | finite s m e hm =>
    obtain ⟨rfl, hlow, hhigh, he⟩ := h
    rcases Int.lt_or_le 971 e with hlarge | hlarge
    · rw [repack_of_large hlarge]
      rfl
    · have hpack := pack_of_normal .positive hm hlow hhigh hlarge
      have hfull := unpackExponent_pack_ne .positive hm hlarge
      rw [hpack] at hfull
      unfold repack
      rw [hpack]
      generalize hb : packComponents Format.binary64 .positive
        (.ofNat _ (e + 1023 + 52).toNat) (.ofNat _ m) = b at hfull ⊢
      have hexponent : (unpackExponent b).toNat = (e + 1023 + 52).toNat % 2 ^ 11 := by
        rw [← hb, unpackExponent_packComponents, BitVec.toNat_ofNat]
      have hmantissa : (unpackMantissa b).toNat = m % 2 ^ 52 := by
        rw [← hb, unpackMantissa_packComponents, BitVec.toNat_ofNat]
      have hsign : unpackSign b = 0#1 := by
        rw [← hb, unpackSign_packComponents]
        rfl
      rcases unpack_cases b with
        ⟨hexp, -, -⟩ | ⟨hexp, -⟩ | ⟨hexp, -, -⟩ | ⟨m', e', hm', hu, hcanonical, hplace⟩
      · exact absurd hexp hfull
      · exact absurd hexp hfull
      · omega
      · obtain ⟨hm53, -, -, hnormal⟩ := hcanonical
        rw [hu]
        refine ⟨by rw [hsign]; rfl, ?_, hm53, ?_⟩
        · omega
        · omega

/-! ## Quotients -/

/-- A quotient, with the bits that say how much is left over, is at most a natural number where the
dividend is at most that many times the divisor. -/
theorem atMost_div {a d n : Nat} (hd : 0 < d) (h : a ≤ n * d) :
    AtMost n (.ofMantissaAndAccuracy (a / d) (accuracyOfFraction (a % d) d)) := by
  rcases Nat.lt_or_ge (a / d) n with hlt | hge
  · refine .inl ?_
    rwa [mantissa_ofMantissaAndAccuracy]
  · have hle : n * d ≤ a := (Nat.le_div_iff_mul_le hd).1 hge
    obtain rfl : a = n * d := Nat.le_antisymm h hle
    have hexact : accuracyOfFraction (n * d % d) d = .exact := if_pos (Nat.mul_mod_left n d)
    rw [hexact, Nat.mul_div_cancel n hd]
    exact atMost_exact n

/-- The quotient of a finite value by one that is at least one is packed as a finite value. -/
theorem isFinite_repack_div (hu : u.isFinite = true) (hc : Canonical u) (hv : AtLeastOne v) :
    (repack (div Format.binary64 u v)).isFinite = true := by
  have hzero : ∀ s : Sign, (repack (.zero s)).isFinite = true := by
    intro s
    cases s <;> rfl
  cases u with
  | notANumber => cases hu
  | infinity s => cases hu
  | zero s =>
    cases v with
    | notANumber => cases hv
    | zero t => cases hv
    | infinity t => exact hzero _
    | finite t n f hn => exact hzero _
  | finite s m e hm =>
    cases v with
    | notANumber => cases hv
    | zero t => cases hv
    | infinity t => exact hzero _
    | finite t n f hn =>
      obtain ⟨hm53, he, he971, -⟩ := hc
      obtain ⟨-, hlow, hhigh, hf⟩ := hv
      have hmlog : m.log2 < 53 := (Nat.log2_lt (Nat.ne_of_gt hm)).2 hm53
      have hnlog : 52 ≤ n.log2 := (Nat.le_log2 (Nat.ne_of_gt hn)).2 hlow
      simp only [div, divCore, targetExponent_eq, totalExponent]
      generalize hk : min (e - f) (max ((m.log2 : Int) + 1 + e - (n.log2 + 1 + f) - 53) (-1074)) = k
      have hke : k ≤ e := by omega
      -- the dividend is no greater than the quotient's bound times the divisor
      have hbound : m <<< (e - f - k).toNat ≤ m * 2 ^ (e - k).toNat * n := by
        rw [Nat.shiftLeft_eq, Nat.mul_assoc]
        refine Nat.mul_le_mul_left m ?_
        calc 2 ^ (e - f - k).toNat ≤ 2 ^ ((e - k).toNat + 52) :=
              Nat.pow_le_pow_right (by decide) (by omega)
          _ = 2 ^ (e - k).toNat * 2 ^ 52 := Nat.pow_add ..
          _ ≤ 2 ^ (e - k).toNat * n := Nat.mul_le_mul_left _ hlow
      rcases roundWithAccuracy_le (s := s / t) hke hm53 he (atMost_div hn hbound) with
        h | ⟨m', e', hm', h, hle⟩
      · rw [h]
        exact hzero _
      · rw [h]
        exact isFinite_repack_of_le (hle.trans he971)

/-! ## Sums -/

/-- Rounding gives a number. -/
theorem isNaN_normalize (m e : Int) (s : Sign) :
    (UnpackedFloat.normalize Format.binary64 m e s).isNaN = false := by
  have hround : ∀ (s : Sign) (m : Nat) (e : Int),
      (UnpackedFloat.round Format.binary64 s m e).isNaN = false := by
    intro s m e
    simp only [UnpackedFloat.round, roundWithAccuracy]
    split <;> rfl
  unfold UnpackedFloat.normalize
  split
  · exact hround _ _ _
  · rfl
  · exact hround _ _ _

/-- The sum of finite values is a number. -/
theorem isNaN_add_of_isFinite (hu : u.isFinite = true) (hv : v.isFinite = true) :
    (add Format.binary64 u v).isNaN = false := by
  cases u with
  | notANumber => cases hu
  | infinity s => cases hu
  | zero s =>
    cases v with
    | notANumber => cases hv
    | infinity t => cases hv
    | zero t => cases s <;> cases t <;> rfl
    | finite t n f hn => rfl
  | finite s m e hm =>
    cases v with
    | notANumber => cases hv
    | infinity t => cases hv
    | zero t => rfl
    | finite t n f hn => exact isNaN_normalize _ _ _

/-- A positive integer is normalized by rounding the natural number that it is. -/
theorem normalize_of_pos {z : Int} (hz : 0 < z) (s : Sign) :
    UnpackedFloat.normalize Format.binary64 z e s =
      UnpackedFloat.round Format.binary64 .positive z.toNat e := by
  simp only [UnpackedFloat.normalize, compare_gt_iff_gt.2 hz]

/-- A sum is at least one where the second summand is and the first is zero or is. -/
theorem atLeastOne_add (hu : u = .zero .positive ∨ AtLeastOne u) (hv : AtLeastOne v) :
    AtLeastOne (add Format.binary64 u v) := by
  rcases hu with rfl | hu
  · cases v with
    | notANumber => cases hv
    | zero t => cases hv
    | infinity t => exact hv
    | finite t n f hn => exact hv
  · cases u with
    | notANumber => cases hu
    | zero s => cases hu
    | infinity s =>
      obtain rfl : s = .positive := hu
      cases v with
      | notANumber => cases hv
      | zero t => cases hv
      | infinity t =>
        obtain rfl : t = .positive := hv
        rfl
      | finite t n f hn => rfl
    | finite s m e hm =>
      cases v with
      | notANumber => cases hv
      | zero t => cases hv
      | infinity t => exact hv
      | finite t n f hn =>
        obtain ⟨rfl, hm52, -, he⟩ := hu
        obtain ⟨rfl, hn52, -, hf⟩ := hv
        have hpow : 2 ^ (-min e f).toNat ≤ 2 ^ 52 := Nat.pow_le_pow_right (by decide) (by omega)
        have hmshift : m ≤ m <<< (e - min e f).toNat := Nat.le_shiftLeft
        have hnshift : n ≤ n <<< (f - min e f).toNat := Nat.le_shiftLeft
        simp only [add, decreaseExponent, Sign.apply]
        rw [normalize_of_pos (by omega)]
        exact atLeastOne_round (by omega)

/-! ## Doubles -/

variable {x y : Float}

/-- A finite double is a number. -/
theorem isNaN_of_isFinite (hx : x.isFinite = true) : x.isNaN = false :=
  isNaN_unpacked (u := x.toModel.unpack) hx

/-- The quotient of a finite double by one that is at least one is finite. -/
theorem isFinite_div (hx : x.isFinite = true) (hy : AtLeastOne y.toModel.unpack) :
    (x / y).isFinite = true :=
  isFinite_repack_div hx (canonical_unpack _) hy

/-- The sum of two finite doubles is a number. -/
theorem isNaN_add (hx : x.isFinite = true) (hy : y.isFinite = true) : (x + y).isNaN = false :=
  isNaN_repack (isNaN_add_of_isFinite hx hy)

/-- What is at least one is positive. -/
theorem pos_of_atLeastOne (hx : AtLeastOne x.toModel.unpack) : 0 < x := by
  have hnumber : x.isNaN = false := by
    change x.toModel.unpack.isNaN = false
    cases hu : x.toModel.unpack with
    | notANumber =>
      rw [hu] at hx
      cases hx
    | infinity | zero | finite => rfl
  rw [lt_iff_placeOf_lt rfl hnumber]
  change 0 < place x.toModel.unpack
  cases hu : x.toModel.unpack with
  | notANumber | zero =>
    rw [hu] at hx
    cases hx
  | infinity s =>
    rw [hu] at hx
    obtain rfl : s = .positive := hx
    decide
  | finite s m e hm =>
    rw [hu] at hx
    obtain ⟨rfl, -, -, he⟩ := hx
    simp only [place, Sign.apply]
    omega

/-- A count as a double is zero, or at least one. -/
theorem unpack_toFloat (n : UInt32) :
    n = 0 ∧ n.toFloat.toModel.unpack = .zero .positive ∨ AtLeastOne n.toFloat.toModel.unpack := by
  rcases Nat.eq_zero_or_pos n.toNat with hn | hn
  · obtain rfl : n = 0 := UInt32.toNat_inj.1 hn
    exact .inl ⟨rfl, rfl⟩
  · refine .inr (atLeastOne_repack ?_)
    change AtLeastOne (UnpackedFloat.normalize Format.binary64 (n.toNat : Int) 0 .positive)
    rw [normalize_of_pos (Int.natCast_pos.2 hn)]
    exact atLeastOne_round hn

/-- The sum of two counts, the second of them not zero, is at least one as a double. -/
theorem atLeastOne_add_toFloat (k : UInt32) {n : UInt32} (hn : n ≠ 0) :
    AtLeastOne (k.toFloat + n.toFloat).toModel.unpack := by
  have hsecond : AtLeastOne n.toFloat.toModel.unpack := (unpack_toFloat n).resolve_left (hn ·.1)
  exact atLeastOne_repack (atLeastOne_add ((unpack_toFloat k).imp_left (·.2)) hsecond)

end SearchGateway.Double
