import SearchGateway.Proofs.Double.Order

/-!
# Bounds on rounding

An operation on doubles computes an exact significand and exponent and rounds them. Two bounds are
all that the scores need. Rounding does not pass a canonical value that bounds the exact one from
above (`roundWithAccuracy_le`), so nothing overflows that stays below a double. And what is at least
one is rounded to a normal value that is at least one (`atLeastOne_round`).

An exact value is a significand and two bits for what lies beyond it. `AtMost n` says that such
a value is at most the natural number `n`; shifting divides it (`AtMost.shiftRight`), and rounding
to the nearest natural number keeps it (`AtMost.roundedMantissa_le`).
-/

namespace SearchGateway.Double

open Float.Model (UnpackedFloat Format totalExponent)
open Float.Model.UnpackedFloat

/-! ## Significands -/

/-- The value of a significand with its two bits is at most a natural number. -/
def AtMost (n : Nat) (em : ExtendedMantissa) : Prop :=
  em.mantissa < n ∨ em.mantissa = n ∧ em.roundBit = false ∧ em.stickyBit = false

variable {em : ExtendedMantissa} {n k : Nat}

/-- A bound on a value bounds its significand. -/
theorem AtMost.mantissa_le (h : AtMost n em) : em.mantissa ≤ n := by
  rcases h with h | ⟨h, -, -⟩
  · exact Nat.le_of_lt h
  · exact Nat.le_of_eq h

/-- Halving a value halves its bound. -/
theorem AtMost.shiftRightOne (h : AtMost (n * 2) em) : AtMost n em.shiftRightOne := by
  rcases h with h | ⟨h, hround, hsticky⟩
  · exact .inl (Nat.div_lt_of_lt_mul (by rw [Nat.mul_comm]; exact h))
  · refine .inr ⟨?_, ?_, ?_⟩
    · simp only [ExtendedMantissa.shiftRightOne, h]
      omega
    · simp [ExtendedMantissa.shiftRightOne, h]
    · simp [ExtendedMantissa.shiftRightOne, hround, hsticky]

/-- Shifting a value by some bits divides its bound. -/
theorem AtMost.shiftRight (h : AtMost (n * 2 ^ k) em) : AtMost n (em >>> k) := by
  induction k generalizing n with
  | zero =>
    have hzero : em >>> (0 : Nat) = em := rfl
    rw [hzero]
    simpa using h
  | succ k ih =>
    have hstep : em >>> (k + 1) = (em >>> k).shiftRightOne := rfl
    rw [hstep]
    refine (ih ?_).shiftRightOne
    rwa [Nat.mul_assoc, Nat.mul_comm 2, ← Nat.pow_succ]

/-- Rounding to the nearest natural number does not pass one that bounds the value. -/
theorem AtMost.roundedMantissa_le (h : AtMost n em) : em.roundedMantissa ≤ n := by
  obtain ⟨m, round, sticky⟩ := em
  rcases h with h | ⟨h, hround, hsticky⟩
  · simp only at h
    cases round <;> cases sticky <;>
      simp only [ExtendedMantissa.roundedMantissa, ExtendedMantissa.accuracy,
        Accuracy.roundToNearestEven] <;> omega
  · simp only at h hround hsticky
    subst hround hsticky
    exact le_of_eq h

/-- Rounding to the nearest natural number leaves the significand or takes the next one. -/
theorem roundedMantissa_bounds (em : ExtendedMantissa) :
    em.mantissa ≤ em.roundedMantissa ∧ em.roundedMantissa ≤ em.mantissa + 1 := by
  obtain ⟨m, round, sticky⟩ := em
  cases round <;> cases sticky <;>
    simp only [ExtendedMantissa.roundedMantissa, ExtendedMantissa.accuracy,
      Accuracy.roundToNearestEven] <;> omega

/-- Shifting divides the significand. -/
theorem mantissa_shiftRight (em : ExtendedMantissa) (k : Nat) :
    (em >>> k).mantissa = em.mantissa / 2 ^ k := by
  induction k with
  | zero => simp only [Nat.pow_zero, Nat.div_one]; rfl
  | succ k ih =>
    have hstep : (em >>> (k + 1)).mantissa = (em >>> k).mantissa / 2 := rfl
    rw [hstep, ih, Nat.div_div_eq_div_mul, Nat.pow_succ]

/-- A significand without bits beyond it is at most itself. -/
theorem atMost_exact (m : Nat) : AtMost m (.ofMantissaAndAccuracy m .exact) :=
  .inr ⟨rfl, rfl, rfl⟩

/-- The significand of an exact value. -/
theorem mantissa_ofMantissaAndAccuracy (m : Nat) (acc : Accuracy) :
    (ExtendedMantissa.ofMantissaAndAccuracy m acc).mantissa = m := by
  cases acc with
  | exact => rfl
  | inexact o => cases o <;> rfl

/-! ## Exponents -/

/-- The exponent that a double of the given size has. -/
theorem targetExponent_eq (t : Int) : Format.binary64.targetExponent t = max (t - 53) (-1074) := rfl

/-- The number of bits that a significand is shifted by. -/
def excess (m : Nat) (e : Int) : Nat :=
  (Format.binary64.targetExponent (totalExponent m e) - e).toNat

/-- Shifting to the exponent of a double. -/
theorem shiftToTargetExponent_eq (m : Nat) (e : Int) (acc : Accuracy) :
    shiftToTargetExponent Format.binary64 m e acc =
      (ExtendedMantissa.ofMantissaAndAccuracy m acc >>> excess m e, e + excess m e) := rfl

/-- Below a canonical value, shifting does not go beyond the exponent of that value. -/
theorem add_excess_le {m b : Nat} {e f : Int} (hm : m ≤ b * 2 ^ (f - e).toNat) (hb : b < 2 ^ 53)
    (he : e ≤ f) (hf : -1074 ≤ f) : e + excess m e ≤ f := by
  have hlog : m ≠ 0 → (m.log2 : Int) < 53 + (f - e) := by
    intro hm0
    have hlt : m < 2 ^ (53 + (f - e).toNat) := by
      rw [Nat.pow_add]
      exact lt_of_le_of_lt hm (Nat.mul_lt_mul_of_pos_right hb (Nat.two_pow_pos _))
    have := (Nat.log2_lt hm0).2 hlt
    omega
  have hzero : m = 0 → m.log2 = 0 := by
    rintro rfl
    exact Nat.log2_zero
  simp only [excess, targetExponent_eq, totalExponent]
  omega

/-! ## Rounding -/

variable {s : Sign} {m : Nat} {e f : Int} {acc : Accuracy}

/-- Rounding shifts to the exponent of a double, rounds the significand, and shifts once more where
that has given it one bit too many. -/
theorem roundWithAccuracy_eq (s : Sign) (m : Nat) (e : Int) (acc : Accuracy) :
    roundWithAccuracy Format.binary64 s m e acc =
      let r := (ExtendedMantissa.ofMantissaAndAccuracy m acc >>> excess m e).roundedMantissa
      let e' := e + excess m e
      if h : r / 2 ^ excess r e' = 0 then .zero s
      else .finite s (r / 2 ^ excess r e') (e' + excess r e') (Nat.pos_of_ne_zero h) := by
  simp only [roundWithAccuracy, shiftToTargetExponent_eq, mantissa_shiftRight,
    mantissa_ofMantissaAndAccuracy]

/-- Rounding does not go beyond the exponent of a canonical value that bounds the exact one. -/
theorem roundWithAccuracy_le {b : Nat} (he : e ≤ f) (hb : b < 2 ^ 53) (hf : -1074 ≤ f)
    (h : AtMost (b * 2 ^ (f - e).toNat) (.ofMantissaAndAccuracy m acc)) :
    roundWithAccuracy Format.binary64 s m e acc = .zero s ∨
      ∃ m' e' hm', roundWithAccuracy Format.binary64 s m e acc = .finite s m' e' hm' ∧ e' ≤ f := by
  have hm := h.mantissa_le
  rw [mantissa_ofMantissaAndAccuracy] at hm
  have hfirst : e + excess m e ≤ f := add_excess_le hm hb he hf
  have hsplit : (f - e).toNat = (f - (e + excess m e)).toNat + excess m e := by omega
  rw [hsplit, Nat.pow_add, ← Nat.mul_assoc] at h
  have hsecond := add_excess_le h.shiftRight.roundedMantissa_le hb hfirst hf
  rw [roundWithAccuracy_eq]
  dsimp only
  split
  · exact .inl rfl
  · next hpos => exact .inr ⟨_, _, Nat.pos_of_ne_zero hpos, rfl, hsecond⟩

/-- A canonical value, in range or beyond, that is at least one. -/
def AtLeastOne : UnpackedFloat → Prop
  | .infinity s => s = .positive
  | .finite s m e _ => s = .positive ∧ 2 ^ 52 ≤ m ∧ m < 2 ^ 53 ∧ -52 ≤ e
  | _ => False

/-- A significand has as many bits as its logarithm says. -/
theorem two_pow_log2_bounds (hm : m ≠ 0) : 2 ^ m.log2 ≤ m ∧ m < 2 ^ (m.log2 + 1) :=
  ⟨Nat.log2_self_le hm, Nat.lt_log2_self⟩

/-- What has all bits of a double's significand and is at least one stays so when it is rounded. -/
theorem atLeastOne_roundWithAccuracy (hm : 2 ^ 52 ≤ m) (he : 0 ≤ m.log2 + e) :
    AtLeastOne (roundWithAccuracy Format.binary64 .positive m e acc) := by
  have hm0 : m ≠ 0 := by
    rintro rfl
    exact absurd hm (by decide)
  obtain ⟨hlow, hhigh⟩ := two_pow_log2_bounds hm0
  have hlog : 52 ≤ m.log2 := (Nat.le_log2 hm0).2 hm
  have hfirst : excess m e = m.log2 - 52 := by
    simp only [excess, targetExponent_eq, totalExponent]
    omega
  have hmantissa := mantissa_shiftRight (.ofMantissaAndAccuracy m acc) (excess m e)
  rw [mantissa_ofMantissaAndAccuracy, hfirst] at hmantissa
  have hge : 2 ^ 52 ≤ m / 2 ^ (m.log2 - 52) := by
    rw [Nat.le_div_iff_mul_le (Nat.two_pow_pos _), ← Nat.pow_add]
    rwa [Nat.add_sub_cancel' hlog]
  have hlt : m / 2 ^ (m.log2 - 52) < 2 ^ 53 := by
    rw [Nat.div_lt_iff_lt_mul (Nat.two_pow_pos _), ← Nat.pow_add]
    rwa [show 53 + (m.log2 - 52) = m.log2 + 1 by omega]
  obtain ⟨hrlow, hrhigh⟩ :=
    roundedMantissa_bounds (ExtendedMantissa.ofMantissaAndAccuracy m acc >>> (m.log2 - 52))
  rw [hmantissa] at hrlow hrhigh
  rw [roundWithAccuracy_eq, hfirst]
  generalize (ExtendedMantissa.ofMantissaAndAccuracy m acc >>>
    (m.log2 - 52)).roundedMantissa = r at hrlow hrhigh
  -- the second shift is by one bit just where the significand has been rounded up to `2 ^ 53`
  have hr0 : r ≠ 0 := by omega
  have hrlog : 52 ≤ r.log2 := (Nat.le_log2 hr0).2 (by omega)
  rcases Nat.lt_or_ge r (2 ^ 53) with hr | hr
  · have hrlog' : r.log2 < 53 := (Nat.log2_lt hr0).2 hr
    have hsecond : excess r (e + (m.log2 - 52 : Nat)) = 0 := by
      simp only [excess, targetExponent_eq, totalExponent]
      omega
    simp only [hsecond, Nat.pow_zero, Nat.div_one, dif_neg hr0, AtLeastOne]
    exact ⟨trivial, hge.trans hrlow, hr, by omega⟩
  · obtain rfl : r = 2 ^ 53 := by omega
    have hsecond : excess (2 ^ 53) (e + (m.log2 - 52 : Nat)) = 1 := by
      have hlog53 : (2 ^ 53 : Nat).log2 = 53 := Nat.log2_two_pow
      simp only [excess, targetExponent_eq, totalExponent, hlog53]
      omega
    dsimp only
    rw [dif_neg (by rw [hsecond]; decide)]
    simp only [hsecond, AtLeastOne]
    exact ⟨trivial, by decide, by decide, by omega⟩

/-- What is at least one stays so when it is rounded. -/
theorem atLeastOne_round (hm : 2 ^ (-e).toNat ≤ m) :
    AtLeastOne (UnpackedFloat.round Format.binary64 .positive m e) := by
  have hm0 : m ≠ 0 := by
    rintro rfl
    exact absurd hm (Nat.not_le.2 (Nat.two_pow_pos _))
  obtain ⟨hlow, -⟩ := two_pow_log2_bounds hm0
  have hlog : (-e).toNat ≤ m.log2 := (Nat.le_log2 hm0).2 hm
  simp only [UnpackedFloat.round, decreaseExponent, targetExponent_eq, totalExponent]
  generalize hk : (e - max ((m.log2 : Int) + 1 + e - 53) (-1074)).toNat = k
  have hshift : 2 ^ (m.log2 + k) ≤ m <<< k := by
    rw [Nat.shiftLeft_eq, Nat.pow_add]
    exact Nat.mul_le_mul_right _ hlow
  have hge : 2 ^ 52 ≤ m <<< k :=
    (Nat.pow_le_pow_right (by decide) (by omega)).trans hshift
  have hlogk : m.log2 + k ≤ (m <<< k).log2 := (Nat.le_log2 (by omega)).2 hshift
  exact atLeastOne_roundWithAccuracy hge (by omega)

end SearchGateway.Double
