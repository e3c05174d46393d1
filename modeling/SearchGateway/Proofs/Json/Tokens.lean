import Mathlib.Data.List.TakeDrop
import Mathlib.Data.List.TakeWhile
import SearchGateway.Json.Token

/-!
# What tokens take off the input

A token that is read takes some text off the input, and takes the same text off any other input that
starts with it (`Takes`); of a number this holds as long as what follows does not go on with the
number (`EndsNumber`). Stepping over the token leaves the same rest.

Numbers are followed through their parts, the last one first (`scansNumber`), and strings through
their bytes (`scansString`).
-/

namespace SearchGateway.Json

variable {α : Type} {t r u : Bytes} {b : UInt8}

/-- The input does not go on with a number. -/
def EndsNumber : Bytes → Prop
  | [] => True
  | b :: _ => isDigitByte b = false ∧ b ≠ 0x2E ∧ b ≠ 0x65 ∧ b ≠ 0x45

/-- Reading takes a text off the input for a value, whatever follows that does not go on with a
number. -/
def Takes (read : Bytes → Except Fault (α × Bytes)) (u : Bytes) (a : α) : Prop :=
  ∀ r, EndsNumber r → read (u ++ r) = .ok (a, r)

/-! ## Blanks and words -/

/-- Blanks at the start of the input are stepped over. -/
theorem skipBlanks_append (hu : ∀ b ∈ u, isBlankByte b = true) (t : Bytes) :
    skipBlanks (u ++ t) = skipBlanks t := List.dropWhile_append_of_pos hu

/-- What is left behind blanks does not start with one. -/
theorem isBlankByte_of_skipBlanks {tail : Bytes} (h : skipBlanks t = b :: tail) :
    isBlankByte b = false := by
  have hhead := List.head?_dropWhile_not isBlankByte t
  rw [show t.dropWhile isBlankByte = b :: tail from h] at hhead
  simpa using hhead

/-- Before what is left behind blanks there are blanks only. -/
theorem exists_blanks (t : Bytes) :
    ∃ u, (∀ b ∈ u, isBlankByte b = true) ∧ t = u ++ skipBlanks t :=
  ⟨t.takeWhile isBlankByte, fun _ hb => List.mem_takeWhile_imp hb,
    List.takeWhile_append_dropWhile.symm⟩

/-- A word is taken off the input where it stands there. -/
theorem expectWord_eq_ok_iff {word : Bytes} : expectWord word t = .ok r ↔ t = word ++ r := by
  induction word generalizing t with
  | nil => simp [expectWord]
  | cons w word ih =>
    cases t with
    | nil => simp [expectWord]
    | cons b t =>
      rw [expectWord]
      split
      · next heq =>
        subst heq
        simpa using ih
      · next hne => simp [hne]

/-! ## Digits -/

/-- The input does not start with a digit. -/
def StartsWithoutDigit (t : Bytes) : Prop := ∀ b ∈ t.head?, isDigitByte b = false

/-- What does not go on with a number does not start with a digit. -/
theorem EndsNumber.startsWithoutDigit (h : EndsNumber t) : StartsWithoutDigit t := by
  cases t with
  | nil => nofun
  | cons b t =>
    rintro c ⟨⟩
    exact h.1

/-- What a text starts with, it starts with whatever follows that does not go on with a number. -/
theorem startsWithoutDigit_append {r' : Bytes} (h : StartsWithoutDigit (u ++ r))
    (hr' : EndsNumber r') : StartsWithoutDigit (u ++ r') := by
  cases u with
  | nil => exact hr'.startsWithoutDigit
  | cons c u => exact h

/-- Digits behind which none follows are dropped. -/
theorem dropWhile_digits (hu : ∀ b ∈ u, isDigitByte b = true) (hr : StartsWithoutDigit r) :
    (u ++ r).dropWhile isDigitByte = r := by
  rw [List.dropWhile_append_of_pos hu]
  cases r with
  | nil => rfl
  | cons b r => simp [hr b rfl]

/-- Digits are taken off the input up to what is none. -/
theorem spanDigits_append {digits : Bytes} (hdigits : ∀ b ∈ digits, isDigitByte b = true)
    (hr : StartsWithoutDigit r) : spanDigits (digits ++ r) = (digits, r) := by
  have hnone : r.takeWhile isDigitByte = [] := by
    cases r with
    | nil => rfl
    | cons b r => simp [hr b rfl]
  rw [spanDigits, List.span_eq_takeWhile_dropWhile, List.takeWhile_append_of_pos hdigits, hnone,
    List.append_nil, dropWhile_digits hdigits hr]

/-- Digits are taken off the input up to what is none. -/
theorem spanDigits_eq {digits : Bytes} (h : spanDigits t = (digits, r)) :
    t = digits ++ r ∧ (∀ b ∈ digits, isDigitByte b = true) ∧ StartsWithoutDigit r := by
  rw [spanDigits, List.span_eq_takeWhile_dropWhile, Prod.mk.injEq] at h
  obtain ⟨rfl, rfl⟩ := h
  refine ⟨List.takeWhile_append_dropWhile.symm, fun _ hb => List.mem_takeWhile_imp hb,
    fun b hb => ?_⟩
  have hhead := List.head?_dropWhile_not isDigitByte t
  rw [Option.mem_def.1 hb] at hhead
  simpa using hhead

/-- The digits of an exponent are taken off the input: all of them, or up to one with which the
exponent gets too large. -/
theorem scanExponent_eq {e : Nat} {o : Option Nat} (h : scanExponent e t = (o, r)) :
    ∃ u, t = u ++ r ∧ (∀ b ∈ u, isDigitByte b = true) ∧
      (∀ r', (o = none ∨ EndsNumber r') → scanExponent e (u ++ r') = (o, r')) ∧
      (o ≠ none → r.dropWhile isDigitByte = r) := by
  induction t generalizing e with
  | nil =>
    cases h
    refine ⟨[], rfl, List.forall_mem_nil _, fun r' hr' => ?_, fun _ => rfl⟩
    cases r' with
    | nil => rfl
    | cons b r' => simp [scanExponent, (hr'.resolve_left nofun).1]
  | cons b t ih =>
    cases hb : isDigitByte b with
    | false =>
      simp only [scanExponent, hb, Bool.false_eq_true, if_false, Prod.mk.injEq] at h
      obtain ⟨rfl, rfl⟩ := h
      refine ⟨[], rfl, List.forall_mem_nil _, fun r' hr' => ?_, fun _ => by simp [hb]⟩
      cases r' with
      | nil => rfl
      | cons b r' => simp [scanExponent, (hr'.resolve_left nofun).1]
    | true =>
      by_cases hlarge : 10 * e + digitValue b < 0x80000000
      · simp only [scanExponent, hb, if_true, hlarge] at h
        obtain ⟨u, rfl, hu, htakes, hrest⟩ := ih h
        refine ⟨b :: u, rfl, List.forall_mem_cons.2 ⟨hb, hu⟩, fun r' hr' => ?_, hrest⟩
        simp only [List.cons_append, scanExponent, hb, if_true, hlarge, htakes r' hr']
      · simp only [scanExponent, hb, if_true, hlarge, if_false, Prod.mk.injEq] at h
        obtain ⟨rfl, rfl⟩ := h
        refine ⟨[b], rfl, by simpa using hb, fun r' _ => ?_, nofun⟩
        simp only [List.cons_append, List.nil_append, scanExponent, hb, if_true, hlarge, if_false]

/-! ## Numbers -/

/-- A byte of a number. -/
def isNumberByte (b : UInt8) : Bool :=
  isDigitByte b || [0x2B, 0x2D, 0x2E, 0x45, 0x65].contains b

/-- A number is read off the input: stepping over it leaves the same rest, and its text is taken off
any other input, too. -/
structure ReadsNumber (read : Bytes → Except Fault (Json × Bytes))
    (skip : Bytes → Except Fault Bytes) (t : Bytes) (a : Json) (r : Bytes) : Prop where
  skip_eq : skip t = .ok r
  exists_text : ∃ u, t = u ++ r ∧ (∀ b ∈ u, isNumberByte b = true) ∧ Takes read u a

variable {negative : Bool} {whole fraction : Bytes} {e : Int} {a : Json}

/-- Digits are bytes of a number. -/
theorem isNumberByte_of_isDigitByte (hb : isDigitByte b = true) : isNumberByte b = true := by
  simp [isNumberByte, hb]

/-- A double is made of digits without regard to what follows them. -/
theorem exists_doubleOfDigits (negative : Bool) (whole fraction : Bytes) (e : Int) :
    ∃ v? : Option Json, ∀ rest, doubleOfDigits negative whole fraction e rest =
      match v? with
      | none => .error ⟨.numberOutOfRange, rest⟩
      | some v => .ok (v, rest) := by
  refine ⟨(scaled? (Decimal.floatOfInt (takeDigits (takeDigits 0 whole).1 fraction).1)
    (e + (takeDigits 0 whole).2 -
      (fraction.length - (takeDigits (takeDigits 0 whole).1 fraction).2 : Nat))).map
        fun x => float (if negative then -x else x), fun rest => ?_⟩
  unfold doubleOfDigits
  dsimp only
  cases scaled? _ _ <;> rfl

/-- If a double is made of digits, it is made of them whatever follows. -/
theorem doubleOfDigits_eq_ok (h : doubleOfDigits negative whole fraction e t = .ok (a, r)) :
    r = t ∧ ∀ rest, doubleOfDigits negative whole fraction e rest = .ok (a, rest) := by
  obtain ⟨v?, heq⟩ := exists_doubleOfDigits negative whole fraction e
  rw [heq] at h
  cases v? with
  | none => cases h
  | some v =>
    cases h
    exact ⟨rfl, heq⟩

/-- If an integer is made of digits, it is made of them whatever follows. -/
theorem integerOfDigits_eq_ok (h : integerOfDigits negative whole t = .ok (a, r)) :
    r = t ∧ ∀ rest, integerOfDigits negative whole rest = .ok (a, rest) := by
  unfold integerOfDigits at h ⊢
  dsimp only at h ⊢
  split at h
  · next hcond =>
    cases h
    exact ⟨rfl, fun rest => if_pos hcond⟩
  · next hcond =>
    simp only [if_neg hcond]
    split at h
    · next hcond =>
      cases h
      exact ⟨rfl, fun rest => if_pos hcond⟩
    · next hcond =>
      simp only [if_neg hcond]
      exact doubleOfDigits_eq_ok h

/-- A sign of an exponent is taken off the input, whatever digit follows. -/
theorem exponentSign_eq {downwards : Bool} {tail : Bytes}
    (h : exponentSign t = (downwards, b :: tail)) :
    ∃ u, t = u ++ b :: tail ∧ (∀ c ∈ u, isNumberByte c = true) ∧
      ∀ tail', isDigitByte b = true →
        exponentSign (u ++ b :: tail') = (downwards, b :: tail') := by
  cases t with
  | nil => cases h
  | cons c t =>
    simp only [exponentSign] at h
    split at h
    · next hplus =>
      cases h
      exact ⟨[c], rfl, by simp [hplus, isNumberByte], fun tail' _ => by simp [exponentSign, hplus]⟩
    · next hplus =>
      split at h
      · next hminus =>
        cases h
        exact ⟨[c], rfl, by simp [hminus, isNumberByte],
          fun tail' _ => by simp [exponentSign, hminus]⟩
      · next hminus =>
        cases h
        exact ⟨[], rfl, List.forall_mem_nil _,
          fun tail' _ => by simp [exponentSign, hplus, hminus]⟩

/-- The first digit of an exponent fits it. -/
theorem scanExponent_cons (hb : isDigitByte b = true) (tail : Bytes) :
    scanExponent 0 (b :: tail) = scanExponent (digitValue b) tail := by
  have hsmall : 10 * 0 + digitValue b < 0x80000000 := by
    have hlt : (b - 0x30).toNat < 256 := (b - 0x30).toNat_lt
    rw [digitValue]
    omega
  rw [scanExponent, if_pos hb, if_pos hsmall, Nat.mul_zero, Nat.zero_add]

/-- Behind the sign and the digits of an exponent, a double is made of the digits of the number, if
the exponent is not too large. -/
theorem scanExponentPart_eq {downwards : Bool} {tail : Bytes}
    (hsign : exponentSign t = (downwards, b :: tail)) (hb : isDigitByte b = true) :
    scanExponentPart negative whole fraction t =
      match scanExponent (digitValue b) tail with
      | (some n, after) =>
        doubleOfDigits negative whole fraction (if downwards then -(n : Int) else n) after
      | (none, after) =>
        if downwards || (whole ++ fraction).all (· == 0x30) then
          .ok (float (Decimal.toFloat ⟨negative, 0, 0⟩), after.dropWhile isDigitByte)
        else .error ⟨.numberOutOfRange, after⟩ := by
  rw [← scanExponent_cons hb, scanExponentPart, hsign]
  exact if_pos hb

/-- The part of a number behind its `e` is read off the input. -/
theorem reads_exponentPart (h : scanExponentPart negative whole fraction t = .ok (a, r)) :
    ReadsNumber (scanExponentPart negative whole fraction) skipExponentPart t a r := by
  rcases hsign : exponentSign t with ⟨downwards, _ | ⟨b, tail⟩⟩
  · rw [scanExponentPart, hsign] at h
    cases h
  cases hb : isDigitByte b with
  | false =>
    simp only [scanExponentPart, hsign, hb, Bool.false_eq_true, if_false] at h
    cases h
  | true =>
    rcases hscan : scanExponent (digitValue b) tail with ⟨o, after⟩
    rw [scanExponentPart_eq hsign hb, hscan] at h
    obtain ⟨s, rfl, hs, hsigned⟩ := exponentSign_eq hsign
    obtain ⟨u, rfl, hdigits, htakes, hrest⟩ := scanExponent_eq hscan
    have hskip : skipExponentPart (s ++ b :: (u ++ after)) =
        .ok (after.dropWhile isDigitByte) := by
      rw [skipExponentPart, hsign]
      dsimp only
      rw [if_pos hb, List.dropWhile_append_of_pos hdigits]
    have hnumber : ∀ digits : Bytes, (∀ c ∈ digits, isDigitByte c = true) →
        ∀ c ∈ s ++ b :: digits, isNumberByte c = true := fun digits hdigits =>
      List.forall_mem_append.2 ⟨hs, List.forall_mem_cons.2
        ⟨isNumberByte_of_isDigitByte hb, fun c hc => isNumberByte_of_isDigitByte (hdigits c hc)⟩⟩
    cases o with
    | some n =>
      obtain ⟨rfl, hdouble⟩ := doubleOfDigits_eq_ok h
      refine ⟨hskip.trans (congrArg Except.ok (hrest nofun)), s ++ b :: u, by simp,
        hnumber u hdigits, fun r' hr' => ?_⟩
      rw [List.append_assoc, List.cons_append, scanExponentPart_eq (hsigned _ hb) hb,
        htakes r' (.inr hr')]
      exact hdouble r'
    | none =>
      -- the digits behind the one with which the exponent gets too large are stepped over
      dsimp only at h
      split at h
      · next hzero =>
        cases h
        have hmore : ∀ c ∈ after.takeWhile isDigitByte, isDigitByte c = true :=
          fun _ hc => List.mem_takeWhile_imp hc
        refine ⟨hskip, s ++ b :: (u ++ after.takeWhile isDigitByte), by simp,
          hnumber _ (List.forall_mem_append.2 ⟨hdigits, hmore⟩), fun r' hr' => ?_⟩
        rw [List.append_assoc, List.cons_append, List.append_assoc,
          scanExponentPart_eq (hsigned _ hb) hb, htakes _ (.inl rfl)]
        dsimp only
        rw [if_pos hzero, dropWhile_digits hmore hr'.startsWithoutDigit]
      · cases h

/-- A number that is read behind a byte of it is read with that byte. -/
theorem ReadsNumber.cons {read read' : Bytes → Except Fault (Json × Bytes)}
    {skip skip' : Bytes → Except Fault Bytes} (h : ReadsNumber read skip t a r)
    (hb : isNumberByte b = true) (hread : ∀ tail, read' (b :: tail) = read tail)
    (hskip : ∀ tail, skip' (b :: tail) = skip tail) : ReadsNumber read' skip' (b :: t) a r := by
  obtain ⟨hrest, u, rfl, hu, htakes⟩ := h
  refine ⟨(hskip _).trans hrest, b :: u, rfl, List.forall_mem_cons.2 ⟨hb, hu⟩, fun r' hr' => ?_⟩
  exact (hread _).trans (htakes r' hr')

/-- The part of a number behind its fraction is read off the input. -/
theorem reads_afterFraction (h : scanAfterFraction negative whole fraction t = .ok (a, r)) :
    ReadsNumber (scanAfterFraction negative whole fraction) skipAfterFraction t a r := by
  have hends : ∀ rest, EndsNumber rest → scanAfterFraction negative whole fraction rest =
      doubleOfDigits negative whole fraction 0 rest := by
    intro rest hrest
    cases rest with
    | nil => rfl
    | cons c rest => exact if_neg (not_or.2 ⟨hrest.2.2.1, hrest.2.2.2⟩)
  cases t with
  | nil =>
    obtain ⟨rfl, hdouble⟩ := doubleOfDigits_eq_ok h
    exact ⟨rfl, [], rfl, List.forall_mem_nil _, fun r' hr' => (hends r' hr').trans (hdouble r')⟩
  | cons b t =>
    rw [scanAfterFraction] at h
    split at h
    · next he =>
      refine (reads_exponentPart h).cons ?_ (fun _ => if_pos he) fun _ => if_pos he
      rcases he with rfl | rfl <;> rfl
    · next he =>
      obtain ⟨rfl, hdouble⟩ := doubleOfDigits_eq_ok h
      exact ⟨if_neg he, [], rfl, List.forall_mem_nil _,
        fun r' hr' => (hends r' hr').trans (hdouble r')⟩

/-- The part of a number behind its integer digits is read off the input. -/
theorem reads_afterWhole (h : scanAfterWhole negative whole t = .ok (a, r)) :
    ReadsNumber (scanAfterWhole negative whole) skipAfterWhole t a r := by
  have hends : ∀ rest, EndsNumber rest → scanAfterWhole negative whole rest =
      integerOfDigits negative whole rest := by
    intro rest hrest
    cases rest with
    | nil => rfl
    | cons c rest =>
      exact (if_neg hrest.2.1).trans (if_neg (not_or.2 ⟨hrest.2.2.1, hrest.2.2.2⟩))
  cases t with
  | nil =>
    obtain ⟨rfl, hinteger⟩ := integerOfDigits_eq_ok h
    exact ⟨rfl, [], rfl, List.forall_mem_nil _, fun r' hr' => (hends r' hr').trans (hinteger r')⟩
  | cons b t =>
    rw [scanAfterWhole] at h
    split at h
    · next hpoint =>
      subst hpoint
      rcases hspan : spanDigits t with ⟨fraction, rest⟩
      obtain ⟨rfl, hdigits, hstart⟩ := spanDigits_eq hspan
      rw [hspan] at h
      cases fraction with
      | nil => cases rest <;> cases h
      | cons d fraction =>
        obtain ⟨hrest, u, rfl, hu, htakes⟩ := reads_afterFraction h
        refine ⟨?_, 0x2E :: (d :: fraction ++ u), by simp, ?_, fun r' hr' => ?_⟩
        · rw [skipAfterWhole, if_pos rfl, hspan]
          exact hrest
        · refine List.forall_mem_cons.2 ⟨rfl, fun c hc => ?_⟩
          rcases List.mem_append.1 hc with hc | hc
          · exact isNumberByte_of_isDigitByte (hdigits c hc)
          · exact hu c hc
        · have hspan' := spanDigits_append hdigits (startsWithoutDigit_append hstart hr')
          simp only [List.cons_append, List.append_assoc] at hspan' ⊢
          simp only [scanAfterWhole, if_true, hspan']
          exact htakes r' hr'
    · next hpoint =>
      split at h
      · next he =>
        refine (reads_exponentPart h).cons ?_ (fun _ => (if_neg hpoint).trans (if_pos he))
          fun _ => (if_neg hpoint).trans (if_pos he)
        rcases he with rfl | rfl <;> rfl
      · next he =>
        obtain ⟨rfl, hinteger⟩ := integerOfDigits_eq_ok h
        exact ⟨(if_neg hpoint).trans (if_neg he), [], rfl, List.forall_mem_nil _,
          fun r' hr' => (hends r' hr').trans (hinteger r')⟩

/-- Behind a zero that no digit follows, a number goes on without digits. -/
theorem scanNumber_zero (negative : Bool) (ht : StartsWithoutDigit t) :
    scanNumber negative (0x30 :: t) = scanAfterWhole negative [0x30] t ∧
      skipNumber (0x30 :: t) = skipAfterWhole t := by
  cases t with
  | nil => exact ⟨rfl, rfl⟩
  | cons d t => simp [scanNumber, skipNumber, ht d rfl]

/-- A number that does not start with zero goes on behind all its digits. -/
theorem scanNumber_digits (negative : Bool) {digits : Bytes} (hb : isDigitByte b = true)
    (hzero : b ≠ 0x30) (hdigits : ∀ c ∈ digits, isDigitByte c = true) (ht : StartsWithoutDigit t) :
    scanNumber negative (b :: (digits ++ t)) = scanAfterWhole negative (b :: digits) t ∧
      skipNumber (b :: (digits ++ t)) = skipAfterWhole t := by
  have hspan := spanDigits_append (List.forall_mem_cons.2 ⟨hb, hdigits⟩) ht
  have hdrop := dropWhile_digits hdigits ht
  rw [List.cons_append] at hspan
  simp [scanNumber, skipNumber, hzero, hb, hspan, hdrop]

/-- A number is read off the input. -/
theorem reads_number (h : scanNumber negative t = .ok (a, r)) :
    ReadsNumber (scanNumber negative) skipNumber t a r := by
  cases t with
  | nil => cases h
  | cons b t =>
    by_cases hzero : b = 0x30
    · subst hzero
      have ht : StartsWithoutDigit t := by
        rintro d hd
        obtain ⟨t, rfl⟩ := List.head?_eq_some_iff.1 hd
        cases hdigit : isDigitByte d with
        | false => rfl
        | true =>
          simp only [scanNumber, hdigit, if_true] at h
          cases h
      rw [(scanNumber_zero negative ht).1] at h
      obtain ⟨hrest, u, rfl, hu, htakes⟩ := reads_afterWhole h
      refine ⟨(scanNumber_zero negative ht).2.trans hrest, 0x30 :: u, rfl,
        List.forall_mem_cons.2 ⟨rfl, hu⟩, fun r' hr' => ?_⟩
      exact (scanNumber_zero negative (startsWithoutDigit_append ht hr')).1.trans (htakes r' hr')
    · cases hb : isDigitByte b with
      | false =>
        simp only [scanNumber, hzero, if_false, hb, Bool.false_eq_true] at h
        cases h
      | true =>
        rcases hspan : spanDigits t with ⟨digits, rest⟩
        obtain ⟨rfl, hdigits, hstart⟩ := spanDigits_eq hspan
        rw [(scanNumber_digits negative hb hzero hdigits hstart).1] at h
        obtain ⟨hrest, u, rfl, hu, htakes⟩ := reads_afterWhole h
        refine ⟨(scanNumber_digits negative hb hzero hdigits hstart).2.trans hrest,
          b :: (digits ++ u), by simp, ?_, fun r' hr' => ?_⟩
        · refine List.forall_mem_cons.2 ⟨isNumberByte_of_isDigitByte hb, fun c hc => ?_⟩
          rcases List.mem_append.1 hc with hc | hc
          · exact isNumberByte_of_isDigitByte (hdigits c hc)
          · exact hu c hc
        · have hstart' := startsWithoutDigit_append hstart hr'
          rw [List.cons_append, List.append_assoc]
          exact (scanNumber_digits negative hb hzero hdigits hstart').1.trans (htakes r' hr')

/-! ## Strings -/

/-- The bytes of a string are taken off the input up to its closing quote; stepping over the string
leaves the same rest. -/
theorem reads_stringBytes {out bytes : ByteArray} (h : stringBytes out t = .ok (bytes, r)) :
    skipString t = .ok r ∧
      ∃ u, t = u ++ r ∧ ∀ r', stringBytes out (u ++ r') = .ok (bytes, r') := by
  fun_induction stringBytes out t with
  | case2 out rest =>
    -- the closing quote
    cases h
    refine ⟨skipString.eq_def _, [0x22], rfl, fun r' => stringBytes.eq_def ..⟩
  | case7 out h₁ h₂ h₃ h₄ lead hlead htrailing hleading s u' l₁ l₂ l₃ l₄ rest hescape trail htrail
      hpair hquote ih =>
    -- a surrogate pair, which is stepped over as two escapes
    obtain ⟨rfl, rfl⟩ := hescape
    obtain ⟨hskip, u, rfl, htakes⟩ := ih h
    refine ⟨by simp [skipString, hlead, htrail, hskip],
      0x5C :: 0x75 :: h₁ :: h₂ :: h₃ :: h₄ :: 0x5C :: 0x75 :: l₁ :: l₂ :: l₃ :: l₄ :: u, rfl,
      fun r' => ?_⟩
    simp [stringBytes, hlead, htrailing, hleading, htrail, hpair, htakes r']
  | case11 out h₁ h₂ h₃ h₄ rest lead hlead htrailing hleading hquote ih =>
    obtain ⟨hskip, u, rfl, htakes⟩ := ih h
    refine ⟨by simp [skipString, hlead, hskip], 0x5C :: 0x75 :: h₁ :: h₂ :: h₃ :: h₄ :: u, rfl,
      fun r' => ?_⟩
    simp [stringBytes, hlead, htrailing, hleading, htakes r']
  | case13 out e rest he c hc hquote ih =>
    obtain ⟨hskip, u, rfl, htakes⟩ := ih h
    refine ⟨?_, 0x5C :: e :: u, rfl, fun r' => ?_⟩
    · rw [skipString.eq_def]
      simp [he, hc, hskip]
    · rw [List.cons_append, stringBytes.eq_def]
      simp [he, hc, htakes r']
  | case16 out b rest hquote hbackslash hcontrol ih =>
    obtain ⟨hskip, u, rfl, htakes⟩ := ih h
    refine ⟨?_, b :: u, rfl, fun r' => ?_⟩
    · rw [skipString.eq_def]
      simp [hquote, hbackslash, hcontrol, hskip]
    · rw [List.cons_append, stringBytes.eq_def]
      simp [hquote, hbackslash, hcontrol, htakes r']
  | case1 | case3 | case4 | case5 | case6 | case8 | case9 | case10 | case12 | case14
  | case15 => cases h

/-- A string is taken off the input up to its closing quote; stepping over it leaves the same
rest. -/
theorem reads_string {s : String} (h : scanString t = .ok (s, r)) :
    skipString t = .ok r ∧ ∃ u, t = u ++ r ∧ ∀ r', scanString (u ++ r') = .ok (s, r') := by
  unfold scanString at h
  rcases hbytes : stringBytes .empty t with f | ⟨bytes, after⟩
  · rw [hbytes] at h
    cases h
  · rw [hbytes] at h
    dsimp only at h
    cases hs : String.fromUTF8? bytes with
    | none =>
      rw [hs] at h
      cases h
    | some s' =>
      rw [hs] at h
      cases h
      obtain ⟨hskip, u, rfl, htakes⟩ := reads_stringBytes hbytes
      refine ⟨hskip, u, rfl, fun r' => ?_⟩
      rw [scanString, htakes r']
      dsimp only
      rw [hs]

end SearchGateway.Json
