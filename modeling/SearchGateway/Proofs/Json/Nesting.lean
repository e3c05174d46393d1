import SearchGateway.Json.Reader
import SearchGateway.Proofs.Json.Tokens

/-!
# How deep containers are nested

`nesting` is the number of containers of a text that are open at once, at most. It counts brackets
and braces outside strings, and is defined for any text; of the tokens of a text only brackets
change the level that it counts (`nestingFrom_append`, `nestingFrom_string`).
-/

namespace SearchGateway.Json

/-- Where in a text its next byte stands. -/
inductive Place where
  | outside
  | inString
  | escaped

/-- The number of containers that are open at once, at most, when a text goes on with so many of
them open. -/
def nestingFrom : Place → (level : Nat) → Bytes → Nat
  | _, level, [] => level
  | .escaped, level, _ :: rest => nestingFrom .inString level rest
  | .inString, level, b :: rest =>
    if b = 0x22 then nestingFrom .outside level rest
    else if b = 0x5C then nestingFrom .escaped level rest
    else nestingFrom .inString level rest
  | .outside, level, b :: rest =>
    if b = 0x22 then nestingFrom .inString level rest
    else if b = 0x5B ∨ b = 0x7B then nestingFrom .outside (level + 1) rest
    else if b = 0x5D ∨ b = 0x7D then max level (nestingFrom .outside (level - 1) rest)
    else nestingFrom .outside level rest

/-- The number of containers of a text that are open at once, at most. -/
def nesting (text : Bytes) : Nat := nestingFrom .outside 0 text

variable {t r u : Bytes} {b : UInt8}

/-- The containers that are open at the start are counted. -/
theorem le_nestingFrom (p : Place) (level : Nat) (t : Bytes) : level ≤ nestingFrom p level t := by
  fun_induction nestingFrom p level t <;> omega

/-- A byte outside strings that is no quote and no bracket. -/
def isPlainByte (b : UInt8) : Bool := [0x22, 0x5B, 0x7B, 0x5D, 0x7D].all (b != ·)

/-- Plain bytes leave the level as it is. -/
theorem nestingFrom_append (hu : ∀ b ∈ u, isPlainByte b = true) (level : Nat) (t : Bytes) :
    nestingFrom .outside level (u ++ t) = nestingFrom .outside level t := by
  induction u with
  | nil => rfl
  | cons b u ih =>
    obtain ⟨hb, hu⟩ := List.forall_mem_cons.1 hu
    simp only [isPlainByte, List.all_cons, List.all_nil, Bool.and_true, Bool.and_eq_true,
      bne_iff_ne] at hb
    rw [List.cons_append, nestingFrom, if_neg hb.1, if_neg (by simp [hb]), if_neg (by simp [hb]),
      ih hu]

/-- Bytes of a kind that no quote and no bracket is of are plain. -/
theorem isPlainByte_of_not {p : UInt8 → Bool}
    (hp : [0x22, 0x5B, 0x7B, 0x5D, 0x7D].all (fun b => !p b) = true) (hb : p b = true) :
    isPlainByte b = true := by
  rw [isPlainByte, List.all_eq_true]
  intro c hc
  have hpc := List.all_eq_true.1 hp c hc
  rw [bne_iff_ne]
  rintro rfl
  rw [hb] at hpc
  cases hpc

/-- Bytes of numbers are plain. -/
theorem isPlainByte_of_isNumberByte (hb : isNumberByte b = true) : isPlainByte b = true :=
  isPlainByte_of_not (by decide) hb

/-- Blanks are plain. -/
theorem isPlainByte_of_isBlankByte (hb : isBlankByte b = true) : isPlainByte b = true :=
  isPlainByte_of_not (by decide) hb

/-! ## Brackets -/

/-- A bracket that opens a container raises the level. -/
theorem nestingFrom_open (hb : b = 0x5B ∨ b = 0x7B) (level : Nat) (t : Bytes) :
    nestingFrom .outside level (b :: t) = nestingFrom .outside (level + 1) t := by
  rcases hb with rfl | rfl <;> rfl

/-- A bracket that closes a container lowers the level. -/
theorem nestingFrom_close (hb : b = 0x5D ∨ b = 0x7D) (level : Nat) (t : Bytes) :
    nestingFrom .outside (level + 1) (b :: t) = max (level + 1) (nestingFrom .outside level t) := by
  rcases hb with rfl | rfl <;> rfl

/-! ## Strings -/

/-- A byte that is neither a quote nor a backslash leaves a string open. -/
theorem nestingFrom_inString (hquote : b ≠ 0x22) (hbackslash : b ≠ 0x5C) (level : Nat)
    (t : Bytes) : nestingFrom .inString level (b :: t) = nestingFrom .inString level t :=
  (if_neg hquote).trans (if_neg hbackslash)

/-- A hexadecimal digit leaves a string open. -/
theorem nestingFrom_hexDigit (hb : (hexValue? b).isSome = true) (level : Nat) (t : Bytes) :
    nestingFrom .inString level (b :: t) = nestingFrom .inString level t := by
  refine nestingFrom_inString ?_ ?_ level t <;>
    · rintro rfl
      cases hb

/-- A code unit has four hexadecimal digits. -/
theorem hexDigits_of_codeUnit? {h₁ h₂ h₃ h₄ : UInt8}
    (h : (codeUnit? h₁ h₂ h₃ h₄).isSome = true) :
    ∀ b ∈ [h₁, h₂, h₃, h₄], (hexValue? b).isSome = true := by
  obtain ⟨n, h⟩ := Option.isSome_iff_exists.1 h
  simp only [codeUnit?, Option.bind_eq_bind, Option.bind_eq_some_iff] at h
  obtain ⟨n₁, h₁, n₂, h₂, n₃, h₃, n₄, h₄, -⟩ := h
  simp [h₁, h₂, h₃, h₄]

/-- A string leaves the level as it is. -/
theorem nestingFrom_string (h : skipString t = .ok r) (level : Nat) :
    nestingFrom .inString level t = nestingFrom .outside level r := by
  fun_induction skipString t with
  | case2 =>
    -- the closing quote
    cases h
    simp [nestingFrom]
  | case4 h₁ h₂ h₃ h₄ rest hunit hquote ih =>
    have hdigits := hexDigits_of_codeUnit? hunit
    simp only [List.forall_mem_cons] at hdigits
    obtain ⟨hd₁, hd₂, hd₃, hd₄, -⟩ := hdigits
    rw [← ih h, nestingFrom, if_neg (by decide), if_pos rfl, nestingFrom, nestingFrom_hexDigit hd₁,
      nestingFrom_hexDigit hd₂, nestingFrom_hexDigit hd₃, nestingFrom_hexDigit hd₄]
  | case7 e rest he hescape hquote ih =>
    rw [← ih h, nestingFrom, if_neg (by decide), if_pos rfl, nestingFrom]
  | case10 b rest hquote hbackslash hcontrol ih =>
    rw [← ih h, nestingFrom_inString hquote hbackslash]
  | case1 | case3 | case5 | case6 | case8 | case9 => cases h

end SearchGateway.Json
