import SearchGateway.Proofs.Json.Values

/-!
# Stepping over values

Stepping over a value that can be read leaves the rest that reading it leaves
(`Reads.skipValue_eq`). What is stepped over lies within containers, which the stack of `skip`
records, and the bound of `skip` is charged for no more than is taken off the input
(`Reads.skip_eq`).
-/

namespace SearchGateway.Json

variable {t r : Bytes} {b : UInt8} {a : Json} {first : Bool} {n : Nat}

/-- Blanks at the start do not matter for a step over a value or a key. -/
theorem skip_of_skipBlanks (bound : Nat) (stack : List Bool) (h : skipBlanks t = b :: r) :
    skip (bound + 1) .value stack t = skip (bound + 1) .value stack (b :: r) ∧
      skip (bound + 1) .key stack t = skip (bound + 1) .key stack (b :: r) := by
  have hblanks : skipBlanks (b :: r) = b :: r :=
    List.dropWhile_cons_of_neg (by simp [isBlankByte_of_skipBlanks h])
  simp only [skip, h, hblanks, and_self]

/-- Stepping over a key and its colon leads to the value of the member. -/
theorem skip_key {key : String} (bound : Nat) (stack : List Bool) (h : scanKey t = .ok (key, r)) :
    skip (bound + 1) .key stack (0x22 :: t) = skip bound .value stack r := by
  obtain ⟨t', hstring, hcolon⟩ := scanKey_eq_ok_iff.1 h
  have hquote : skipBlanks (0x22 :: t) = 0x22 :: t := rfl
  simp only [skip, hquote, (reads_string hstring).1, hcolon, if_true]

/-- Stepping over what is read next, within the containers on the stack. -/
def Goal.skip (bound : Nat) (stack : List Bool) (t : Bytes) : Goal → Except Fault Bytes
  | .value => Json.skip (bound + 1) .value stack t
  | .items true _ =>
    match skipBlanks t with
    | [] => .error (eofIn false)
    | c :: rest =>
      if c = 0x5D then Json.skip bound .afterValue stack rest
      else Json.skip bound .value (false :: stack) (c :: rest)
  | .items false _ => Json.skip (bound + 1) .afterValue (false :: stack) t
  | .members true _ =>
    match skipBlanks t with
    | [] => .error (eofIn true)
    | c :: rest =>
      if c = 0x7D then Json.skip bound .afterValue stack rest
      else Json.skip bound .key (true :: stack) (c :: rest)
  | .members false _ => Json.skip (bound + 1) .afterValue (true :: stack) t

/-- Stepping over what is left of an array goes on with its next item. -/
theorem Goal.skip_item {t₁ : Bytes} (bound : Nat) (stack : List Bool) (seen : List Json)
    (h : nextItem first t = .ok (.item t₁)) :
    (Goal.items first seen).skip (bound + 1) stack t =
      Json.skip (bound + 1) .value (false :: stack) t₁ := by
  obtain ⟨c, tail, rfl, hbracket, hbefore⟩ := nextItem_eq_item_iff.1 h
  cases first with
  | true =>
    have hblanks : skipBlanks t = c :: tail := hbefore
    simp only [Goal.skip, hblanks, if_neg hbracket]
  | false =>
    obtain ⟨t', hcomma, hblanks⟩ := hbefore
    rw [← (skip_of_skipBlanks bound (false :: stack) hblanks).1, Goal.skip, Json.skip.eq_def]
    simp only [hcomma, if_true, Bool.false_eq_true, if_false]

/-- Stepping over what is left of an object goes on with the value of its next member. -/
theorem Goal.skip_member {key : String} {t₁ t₂ : Bytes} (bound : Nat) (stack : List Bool)
    (seen : List (String × Json)) (hnext : nextKey first t = .ok (.item t₁))
    (hkey : scanKey t₁ = .ok (key, t₂)) :
    (Goal.members first seen).skip (bound + 1) stack t =
      Json.skip bound .value (true :: stack) t₂ := by
  have hbefore := nextKey_eq_item_iff.1 hnext
  rw [← skip_key bound (true :: stack) hkey]
  cases first with
  | true =>
    have hblanks : skipBlanks t = 0x22 :: t₁ := hbefore
    simp only [Goal.skip, hblanks]
    rfl
  | false =>
    obtain ⟨t', hcomma, hblanks⟩ := hbefore
    rw [← (skip_of_skipBlanks bound (true :: stack) hblanks).2, Goal.skip, Json.skip.eq_def]
    simp only [hcomma, if_true]

/-- What is charged for a goal before it is stepped over. -/
def Goal.charge : Goal → Nat
  | .value => 1
  | .items first _ => if first then 0 else 1
  | .members first _ => if first then 0 else 1

/-- Stepping over what is read leaves the same rest, and is charged for no more than is taken off
the input. -/
theorem Reads.skip_eq {g : Goal} (h : Reads n g t a r) :
    ∃ k, k + g.charge + r.length ≤ t.length ∧
      ∀ bound stack, g.skip (bound + k) stack t = Json.skip bound .afterValue stack r := by
  induction h with
  | @scalar n t tail r b a hblanks h =>
    refine ⟨0, ?_, fun bound stack => ?_⟩
    · have := (Reads.scalar (n := n) hblanks h).length_lt
      simp only [Goal.charge]
      omega
    · simp only [Goal.skip, Json.skip, hblanks, (reads_scalar h).1]
  | array hblanks h ih | object hblanks h ih =>
    obtain ⟨k, hk, hskip⟩ := ih
    refine ⟨k, ?_, fun bound stack => ?_⟩
    · have := length_of_skipBlanks hblanks
      simp only [Goal.charge, List.length_cons] at this hk ⊢
      omega
    · rw [← hskip]
      simp only [Goal.skip, Json.skip, hblanks]
      rfl
  | @itemsEnd n first seen t r h =>
    have hblanks := nextItem_eq_stop_iff.1 h
    refine ⟨0, ?_, fun bound stack => ?_⟩
    · have := length_of_skipBlanks hblanks
      simp only [Goal.charge, List.length_cons] at this ⊢
      split <;> omega
    · cases first <;> simp only [Goal.skip, Json.skip, hblanks] <;> rfl
  | @item n first seen t t₁ t₂ r v a hnext hvalue hrest ihvalue ihrest =>
    obtain ⟨k, hk, hskip⟩ := ihvalue
    obtain ⟨k', hk', hskip'⟩ := ihrest
    obtain ⟨c, tail, rfl, -, hbefore⟩ := nextItem_eq_item_iff.1 hnext
    refine ⟨k + 1 + (k' + 1), ?_, fun bound stack => ?_⟩
    · have := hbefore.length_le
      simp only [Goal.charge, Bool.false_eq_true, if_false] at hk hk' ⊢
      omega
    · have hbound : bound + (k + 1 + (k' + 1)) = bound + k' + 1 + k + 1 := by omega
      rw [hbound, Goal.skip_item _ stack seen hnext, ← hskip' bound stack]
      exact hskip (bound + k' + 1) (false :: stack)
  | @membersEnd n first seen t r h =>
    have hblanks := nextKey_eq_stop_iff.1 h
    refine ⟨0, ?_, fun bound stack => ?_⟩
    · have := length_of_skipBlanks hblanks
      simp only [Goal.charge, List.length_cons] at this ⊢
      split <;> omega
    · cases first <;> simp only [Goal.skip, Json.skip, hblanks] <;> rfl
  | @member n first seen key t t₁ t₂ t₃ r v a hnext hkey hvalue hrest ihvalue ihrest =>
    obtain ⟨k, hk, hskip⟩ := ihvalue
    obtain ⟨k', hk', hskip'⟩ := ihrest
    refine ⟨k + 1 + (k' + 1) + 1, ?_, fun bound stack => ?_⟩
    · have hnext := (nextKey_eq_item_iff.1 hnext).length_le
      have hkey := length_of_scanKey hkey
      simp only [Goal.charge, Bool.false_eq_true, if_false, List.length_cons] at hk hk' hnext ⊢
      omega
    · have hbound : bound + (k + 1 + (k' + 1) + 1) = bound + k' + 1 + k + 1 + 1 := by omega
      rw [hbound, Goal.skip_member _ stack seen hnext hkey, ← hskip' bound stack]
      exact hskip (bound + k' + 1) (true :: stack)

/-- Stepping over a value that is read leaves the same rest. -/
theorem Reads.skipValue_eq (h : Reads n .value t a r) : skipValue t = .ok r := by
  obtain ⟨k, hk, hskip⟩ := h.skip_eq
  have hbound : 2 * t.length + 4 = (2 * t.length + 2 - k + 1) + k + 1 := by
    simp only [Goal.charge] at hk
    omega
  rw [skipValue, hbound]
  exact hskip (2 * t.length + 2 - k + 1) []

end SearchGateway.Json
