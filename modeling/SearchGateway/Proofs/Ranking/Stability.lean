import Mathlib.Data.List.Pairwise

/-!
# Stable order

A stable order does not take apart what ties: elements that may stand before one another stay in the
order in which they came (`filter_mergeSort`). So a list in order is settled by its ties, whatever
stood between them (`eq_of_pairwise_of_filter_eq`).
-/

namespace SearchGateway

variable {α : Type}

/-- Elements of which each may stand before each other keep their order when a list is sorted. -/
theorem filter_mergeSort {le : α → α → Bool} {p : α → Bool}
    (htrans : ∀ a b c, le a b = true → le b c = true → le a c = true)
    (htotal : ∀ a b, (le a b || le b a) = true)
    (hties : ∀ a b, p a = true → p b = true → le a b = true) (l : List α) :
    (l.mergeSort le).filter p = l.filter p := by
  have hinorder : (l.filter p).Pairwise fun a b => le a b = true := by
    refine List.pairwise_of_forall_mem_list fun a ha b hb => ?_
    exact hties a b (List.mem_filter.1 ha).2 (List.mem_filter.1 hb).2
  have hkept : (l.filter p).Sublist (l.mergeSort le) :=
    List.sublist_mergeSort htrans htotal hinorder List.filter_sublist
  have hfiltered : (l.filter p).Sublist ((l.mergeSort le).filter p) := by
    simpa using hkept.filter p
  have hlength := ((List.mergeSort_perm l le).filter p).length_eq
  exact (hfiltered.eq_of_length hlength.symm).symm

/-- Lists with the same elements under each value of a key have the same elements. -/
theorem mem_iff_of_filter_eq {key : α → Nat} {l₁ l₂ : List α}
    (h : ∀ k, l₁.filter (key · = k) = l₂.filter (key · = k)) (a : α) : a ∈ l₁ ↔ a ∈ l₂ := by
  have hfilter : a ∈ l₁.filter (key · = key a) ↔ a ∈ l₂.filter (key · = key a) := by
    rw [h (key a)]
  simpa using hfilter

/-- Two lists in the order of a key are equal if they have the same elements under each value of
it, in the same order. -/
theorem eq_of_pairwise_of_filter_eq (key : α → Nat) {l₁ l₂ : List α}
    (h₁ : l₁.Pairwise fun a b => key a ≤ key b) (h₂ : l₂.Pairwise fun a b => key a ≤ key b)
    (h : ∀ k, l₁.filter (key · = k) = l₂.filter (key · = k)) : l₁ = l₂ := by
  induction l₁ generalizing l₂ with
  | nil =>
    cases l₂ with
    | nil => rfl
    | cons b l₂ => cases (mem_iff_of_filter_eq h b).2 List.mem_cons_self
  | cons a l₁ ih =>
    have hmem := mem_iff_of_filter_eq h
    cases l₂ with
    | nil => cases (hmem a).1 List.mem_cons_self
    | cons b l₂ =>
      obtain ⟨ha, h₁'⟩ := List.pairwise_cons.1 h₁
      obtain ⟨hb, h₂'⟩ := List.pairwise_cons.1 h₂
      -- the first elements have the least key of both lists, and are the first ones under it
      have hab : key a ≤ key b := by
        rcases List.mem_cons.1 ((hmem b).2 List.mem_cons_self) with rfl | hb'
        · exact Nat.le_refl _
        · exact ha b hb'
      have hba : key b ≤ key a := by
        rcases List.mem_cons.1 ((hmem a).1 List.mem_cons_self) with rfl | ha'
        · exact Nat.le_refl _
        · exact hb a ha'
      have hkey : key a = key b := Nat.le_antisymm hab hba
      have hfirst := h (key b)
      rw [List.filter_cons_of_pos (by simpa using hkey),
        List.filter_cons_of_pos (by simp)] at hfirst
      obtain ⟨rfl, hrest⟩ := List.cons.inj hfirst
      have hties : ∀ k, l₁.filter (key · = k) = l₂.filter (key · = k) := by
        intro k
        by_cases hk : key a = k
        · rwa [← hk]
        · have hk' := h k
          rwa [List.filter_cons_of_neg (by simpa using hk),
            List.filter_cons_of_neg (by simpa using hk)] at hk'
      rw [ih h₁' h₂' hties]

end SearchGateway
