import Mathlib.Data.List.DropRight
import SearchGateway.Text.Blank

/-!
# Characters at the end

A text is what is left when a character is taken off its end, followed by that character some number
of times. What is left does not depend on this number.
-/

namespace SearchGateway.Text

variable {c : Char} {s : String}

/-- Characters are those without one at their end, followed by that one some number of times. -/
theorem exists_eq_rdropWhile_append (c : Char) (cs : List Char) :
    ∃ n, cs = cs.rdropWhile (· == c) ++ .replicate n c := by
  have hsame : cs.rtakeWhile (· == c) = .replicate (cs.rtakeWhile (· == c)).length c :=
    List.eq_replicate_of_mem fun _ h => eq_of_beq (List.mem_rtakeWhile_imp (p := (· == c)) h)
  refine ⟨(cs.rtakeWhile (· == c)).length, ?_⟩
  rw [← hsame, List.rdropWhile_append_rtakeWhile]

/-- What is left does not end with the character that was taken off. -/
theorem getLast?_rdropWhile_ne (c : Char) (cs : List Char) :
    (cs.rdropWhile (· == c)).getLast? ≠ some c := by
  intro hlast
  have hne : cs.rdropWhile (· == c) ≠ [] := by
    intro hnil
    rw [hnil] at hlast
    cases hlast
  rw [List.getLast?_eq_some_getLast hne, Option.some.injEq] at hlast
  exact List.rdropWhile_last_not _ _ hne (by rw [hlast]; exact beq_self_eq_true c)

/-- Taking a character off is undone where it was not there. -/
theorem withoutTrailing_append_replicate (hs : s.toList.getLast? ≠ some c) (n : Nat) :
    withoutTrailing c (s ++ .ofList (.replicate n c)) = s := by
  have hkept : s.toList.rdropWhile (· == c) = s.toList := by
    rw [List.rdropWhile_eq_self_iff]
    intro hne hlast
    rw [List.getLast?_eq_some_getLast hne, eq_of_beq hlast] at hs
    exact hs rfl
  have hdropped : (s.toList ++ .replicate n c).rdropWhile (· == c) = s.toList := by
    induction n with
    | zero => rw [List.replicate_zero, List.append_nil, hkept]
    | succ n ih =>
      rw [List.replicate_succ', ← List.append_assoc,
        List.rdropWhile_concat_pos (· == c) _ _ (beq_self_eq_true c), ih]
  rw [withoutTrailing, String.toList_append, String.toList_ofList]
  exact (congrArg String.ofList hdropped).trans String.ofList_toList

/-- A text is one that does not end with a character, followed by it some number of times. -/
theorem exists_eq_append_replicate (c : Char) (s : String) :
    ∃ stem n, s = stem ++ .ofList (.replicate n c) ∧ stem.toList.getLast? ≠ some c := by
  obtain ⟨n, hs⟩ := exists_eq_rdropWhile_append c s.toList
  refine ⟨.ofList (s.toList.rdropWhile (· == c)), n, ?_, ?_⟩
  · rw [← String.ofList_append, ← hs, String.ofList_toList]
  · rw [String.toList_ofList]
    exact getLast?_rdropWhile_ne c s.toList

end SearchGateway.Text
