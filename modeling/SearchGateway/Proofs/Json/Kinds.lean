import SearchGateway.Proofs.Json.Slices

/-!
# Reading values of a kind

Strings, counts and numbers are read for shapes that ask for nothing but a kind of value
(`Shape.isPlain`), and a column may be `null` besides (`Shape.IsColumn`). For such a shape a text is
read just as it is for any value, and then refused unless the value is of the kind
(`readShape_plain`, `readShape_optional`): the first byte of a scalar tells its kind
(`kind_of_scanScalar?`).
-/

namespace SearchGateway

/-- A value is of a shape that tells values by their kind. -/
def Shape.admits : Shape → Json → Bool
  | .any, _ => true
  | .text, v => v.string?.isSome
  | .word32, v => v.word32?.isSome
  | .number, v => v.float?.isSome
  | .optional inner, v => v.isNull || inner.admits v
  | .caseName, _ | .list _, _ | .record .., _ => false

/-- A shape that tells values by their kind alone. -/
def Shape.isPlain : Shape → Bool
  | .any | .text | .word32 | .number => true
  | .caseName | .optional _ | .list _ | .record .. => false

/-- A shape of a column, which may be `null`. -/
def Shape.IsColumn (shape : Shape) : Prop :=
  ∃ inner, shape = .optional inner ∧ inner.isPlain = true

namespace Json

variable {t r v : Bytes} {a : Json} {b : UInt8} {first : Bool} {n m : Nat} {shape : Shape}

/-! ## Kinds -/

section
variable {negative : Bool} {whole fraction : Bytes} {e : Int}

/-- What is made of digits is a number. -/
theorem isSome_doubleOfDigits (h : doubleOfDigits negative whole fraction e t = .ok (a, r)) :
    a.float?.isSome = true := by
  unfold doubleOfDigits at h
  dsimp only at h
  split at h
  · cases h
  · cases h
    rfl

/-- What is made of the digits of an integer is a number. -/
theorem isSome_integerOfDigits (h : integerOfDigits negative whole t = .ok (a, r)) :
    a.float?.isSome = true := by
  unfold integerOfDigits at h
  dsimp only at h
  split_ifs at h
  · cases h
    rfl
  · cases h
    rfl
  · exact isSome_doubleOfDigits h

/-- What is read with an exponent is a number. -/
theorem isSome_scanExponentPart (h : scanExponentPart negative whole fraction t = .ok (a, r)) :
    a.float?.isSome = true := by
  unfold scanExponentPart at h
  dsimp only at h
  grind [float?, isSome_doubleOfDigits]

/-- What is read behind a fraction is a number. -/
theorem isSome_scanAfterFraction (h : scanAfterFraction negative whole fraction t = .ok (a, r)) :
    a.float?.isSome = true := by
  unfold scanAfterFraction at h
  grind [isSome_doubleOfDigits, isSome_scanExponentPart]

/-- What is read behind integer digits is a number. -/
theorem isSome_scanAfterWhole (h : scanAfterWhole negative whole t = .ok (a, r)) :
    a.float?.isSome = true := by
  unfold scanAfterWhole at h
  grind [isSome_integerOfDigits, isSome_scanExponentPart, isSome_scanAfterFraction]

/-- What is read as a number is a number. -/
theorem isSome_scanNumber (h : scanNumber negative t = .ok (a, r)) : a.float?.isSome = true := by
  unfold scanNumber at h
  grind [isSome_scanAfterWhole]

end

/-- The first byte of a scalar tells its kind. -/
theorem kind_of_scanScalar? (h : scanScalar? b t = some (.ok (a, r))) :
    (b = 0x6E ∧ a = null) ∨ ((b = 0x74 ∨ b = 0x66) ∧ ∃ c, a = bool c) ∨
      ((b = 0x2D ∨ isDigitByte b = true) ∧ a.float?.isSome = true) ∨
      (b = 0x22 ∧ ∃ s, a = string s) := by
  unfold scanScalar? at h
  split_ifs at h with hnull htrue hfalse hminus hdigit hquote <;>
    simp only [Option.some.injEq, map_eq_ok_iff, Prod.mk.injEq, Prod.exists] at h
  · obtain ⟨_, -, rfl, -⟩ := h
    exact .inl ⟨hnull, rfl⟩
  · obtain ⟨_, -, rfl, -⟩ := h
    exact .inr (.inl ⟨.inl htrue, _, rfl⟩)
  · obtain ⟨_, -, rfl, -⟩ := h
    exact .inr (.inl ⟨.inr hfalse, _, rfl⟩)
  · exact .inr (.inr (.inl ⟨.inl hminus, isSome_scanNumber h⟩))
  · exact .inr (.inr (.inl ⟨.inr hdigit, isSome_scanNumber h⟩))
  · obtain ⟨s, _, -, rfl, -⟩ := h
    exact .inr (.inr (.inr ⟨hquote, s, rfl⟩))

/-- What is read of a container is no scalar. -/
theorem Reads.isScalar_eq_false {g : Goal} (h : Reads n g t a r) (hg : g ≠ .value) :
    a.isScalar = false := by
  induction h with
  | scalar | array | object => exact absurd rfl hg
  | itemsEnd | membersEnd => rfl
  | item _ _ _ _ ih | member _ _ _ _ _ ih => exact ih nofun

/-- A scalar is read of a text that starts with one. -/
theorem reads_scalar_iff (ha : a.isScalar = true) : Reads n .value t a r ↔
    ∃ b tail, skipBlanks t = b :: tail ∧ scanScalar? b tail = some (.ok (a, r)) := by
  constructor
  · intro h
    cases h with
    | scalar hblanks h => exact ⟨_, _, hblanks, h⟩
    | array _ h | object _ h => cases ha.symm.trans (h.isScalar_eq_false nofun)
  · rintro ⟨b, tail, hblanks, h⟩
    exact .scalar hblanks h

/-- A string is read of a text that holds one. -/
theorem readText_eq_ok_iff :
    readText t = .ok (a, r) ↔ Reads n .value t a r ∧ a.string?.isSome = true := by
  constructor
  · intro h
    unfold readText at h
    split at h
    · cases h
    · next b tail hblanks =>
      split_ifs at h with hquote
      subst hquote
      obtain ⟨⟨s, rest⟩, hstring, heq⟩ := map_eq_ok_iff.1 h
      cases heq
      exact ⟨.scalar hblanks (congrArg some h), rfl⟩
  · rintro ⟨h, ha⟩
    have hscalar : a.isScalar = true := by cases a <;> simp_all [string?, isScalar]
    obtain ⟨b, tail, hblanks, h⟩ := (reads_scalar_iff hscalar).1 h
    obtain rfl : b = 0x22 := by
      rcases kind_of_scanScalar? h with ⟨-, rfl⟩ | ⟨-, _, rfl⟩ | ⟨-, hnumber⟩ | ⟨h, -⟩
      · cases ha
      · cases ha
      · cases a <;> simp_all [string?, float?]
      · exact h
    rw [readText, hblanks]
    exact Option.some.inj h

/-- A scalar that starts with a minus sign or a digit is a number. -/
theorem scanScalar?_of_isDigitByte (hb : b = 0x2D ∨ isDigitByte b = true) (tail : Bytes) :
    scanScalar? b tail =
      if b = 0x2D then some (scanNumber true tail)
      else if isDigitByte b then some (scanNumber false (b :: tail)) else none := by
  have hword : b ≠ 0x6E ∧ b ≠ 0x74 ∧ b ≠ 0x66 := by
    refine ⟨?_, ?_, ?_⟩ <;>
      · rintro rfl
        revert hb
        decide
  unfold scanScalar?
  rw [if_neg hword.1, if_neg hword.2.1, if_neg hword.2.2]
  grind

/-- A number is read of a text that holds one, if it is accepted. -/
theorem readNumber_eq_ok_iff {expected : String} {accept : Json → Except Issue Json}
    {p : Json → Bool} (haccept : ∀ v w, accept v = .ok w ↔ w = v ∧ p v = true)
    (hnumber : ∀ v, p v = true → v.float?.isSome = true) :
    readNumber expected accept t = .ok (a, r) ↔ Reads n .value t a r ∧ p a = true := by
  constructor
  · intro h
    unfold readNumber at h
    split at h
    · cases h
    · next b tail hblanks =>
      by_cases hb : b = 0x2D ∨ isDigitByte b = true
      · rw [← scanScalar?_of_isDigitByte hb] at h
        dsimp only at h
        split at h
        · cases h
        · cases h
        · next v rest hscalar =>
          split at h
          · next w haccepted =>
            cases h
            obtain ⟨rfl, haccepted⟩ := (haccept _ _).1 haccepted
            exact ⟨.scalar hblanks hscalar, haccepted⟩
          · cases h
      · rw [not_or] at hb
        simp only [if_neg hb.1, if_neg hb.2] at h
        cases h
  · rintro ⟨h, ha⟩
    have hscalar : a.isScalar = true := by
      have := hnumber a ha
      cases a <;> simp_all [float?, isScalar]
    obtain ⟨b, tail, hblanks, h⟩ := (reads_scalar_iff hscalar).1 h
    have hb : b = 0x2D ∨ isDigitByte b = true := by
      have := hnumber a ha
      rcases kind_of_scanScalar? h with ⟨-, rfl⟩ | ⟨-, _, rfl⟩ | ⟨h, -⟩ | ⟨-, _, rfl⟩
      · cases this
      · cases this
      · exact h
      · cases this
    rw [scanScalar?_of_isDigitByte hb] at h
    unfold readNumber
    simp only [hblanks, h, (haccept a a).2 ⟨rfl, ha⟩]

/-- A number is accepted as a count if it is one. -/
theorem acceptWord32_eq_ok_iff (v w : Json) :
    acceptWord32 v = .ok w ↔ w = v ∧ (Shape.admits .word32 v) = true := by
  cases v <;> simp [acceptWord32, Shape.admits, word32?]
  grind

/-- Any number is accepted. -/
theorem acceptNumber_eq_ok_iff (v w : Json) :
    acceptNumber v = .ok w ↔ w = v ∧ (Shape.admits .number v) = true := by
  cases v <;> simp [acceptNumber, Shape.admits, float?, eq_comm]

/-- A value is read for a shape that tells kinds if it is of the shape. -/
theorem readShape_plain {bound : Nat} (hshape : shape.isPlain = true)
    (hbound : 2 * t.length + 1 ≤ bound) :
    readShape bound (n + 1) shape t = .ok (a, r) ↔
      Reads n .value t a r ∧ shape.admits a = true := by
  obtain ⟨bound, rfl⟩ : ∃ m, bound = m + 1 := Nat.exists_eq_add_one.2 (by omega)
  cases shape with
  | any =>
    rw [readShape, readAny_eq_ok_iff (by omega)]
    simp [Shape.admits]
  | text =>
    rw [readShape, readText_eq_ok_iff]
    rfl
  | word32 =>
    rw [readShape]
    refine readNumber_eq_ok_iff acceptWord32_eq_ok_iff fun v hv => ?_
    cases v <;> simp_all [Shape.admits, word32?, float?]
  | number =>
    rw [readShape]
    exact readNumber_eq_ok_iff acceptNumber_eq_ok_iff fun v hv => hv
  | caseName | optional | list | record => cases hshape

/-- `null` is read of a text that starts with an `n`, and nothing else is. -/
theorem reads_null_iff {tail : Bytes} (hblanks : skipBlanks t = b :: tail)
    (h : Reads n .value t a r) : a = null ↔ b = 0x6E := by
  constructor
  · rintro rfl
    obtain ⟨c, tail', hblanks', h⟩ := (reads_scalar_iff rfl).1 h
    cases hblanks.symm.trans hblanks'
    rcases kind_of_scanScalar? h with ⟨hb, -⟩ | ⟨-, _, hnull⟩ | ⟨-, hnull⟩ | ⟨-, _, hnull⟩
    · exact hb
    · cases hnull
    · cases hnull
    · cases hnull
  · rintro rfl
    cases h with
    | scalar hblanks' h =>
      cases hblanks.symm.trans hblanks'
      obtain ⟨_, -, heq⟩ := map_eq_ok_iff.1 (Option.some.inj h)
      exact (Prod.mk.inj heq).1.symm
    | array hblanks' | object hblanks' => cases hblanks.symm.trans hblanks'

/-- A value is read for an optional shape if it is `null` or of the shape. -/
theorem readShape_optional {bound : Nat} (hshape : shape.isPlain = true)
    (hbound : 2 * t.length + 2 ≤ bound) :
    readShape bound (n + 1) (.optional shape) t = .ok (a, r) ↔
      Reads n .value t a r ∧ (Shape.optional shape).admits a = true := by
  obtain ⟨bound, rfl⟩ : ∃ m, bound = m + 1 := Nat.exists_eq_add_one.2 (by omega)
  rw [readShape]
  split
  · next hblanks =>
    have hnone : ∀ {t}, skipBlanks t = [] → ¬ Reads n .value t a r := by
      intro t ht h
      cases h with
      | scalar ht' | array ht' | object ht' => cases ht.symm.trans ht'
    rw [readShape_plain hshape (by simp only [List.length_nil]; omega)]
    exact iff_of_false (fun h => hnone rfl h.1) fun h => hnone hblanks h.1
  · next b tail hblanks =>
    have hlength := length_of_skipBlanks hblanks
    have hreads : Reads n .value (b :: tail) a r ↔ Reads n .value t a r := by
      have hskip := hblanks ▸ skipBlanks_skipBlanks t
      exact ⟨(reads_value_of_skipBlanks · (hskip.trans hblanks.symm)),
        (reads_value_of_skipBlanks · (hskip.trans hblanks.symm).symm)⟩
    split_ifs with hb
    · subst hb
      constructor
      · intro h
        obtain ⟨rest, -, heq⟩ := map_eq_ok_iff.1 h
        cases heq
        exact ⟨.scalar hblanks (congrArg some h), rfl⟩
      · rintro ⟨h, -⟩
        obtain rfl := (reads_null_iff hblanks h).2 rfl
        obtain ⟨c, tail', hblanks', h⟩ := (reads_scalar_iff rfl).1 h
        cases hblanks.symm.trans hblanks'
        exact Option.some.inj h
    · rw [readShape_plain hshape (by omega), hreads]
      refine and_congr_right fun h => ?_
      have hnull : a.isNull = false := by
        have := (reads_null_iff hblanks h).not.2 hb
        cases a <;> simp_all [isNull]
      rw [Shape.admits, hnull, Bool.false_or]

end Json

end SearchGateway
