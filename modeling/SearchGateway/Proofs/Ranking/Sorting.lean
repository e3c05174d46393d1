import Mathlib.Data.List.Sort
import SearchGateway.Proofs.Double.Bits
import SearchGateway.Ranking.Fusion

/-!
# Descending order of matches

Matches are put in order in two places, where rankings are fused and where an engine's own fusion
is found out of order. `ranked` is the order of both: stable, and descending in the total order of
scores. It is insertion behind everything that does not stand below (`ranked_eq_insertionSort`), it
leaves alone what is in order already (`ranked_of_pairwise`), and what a cut leaves out does not
stand above what it keeps (`mayPrecede_of_not_mem_take`).
-/

namespace SearchGateway

open Binary64 (NanRule StandsBelow scoreKey_lt_iff)

/-! ## Stable sorting -/

section
variable {α : Type} {r : α → α → Prop} [DecidableRel r] {a : α} {l₁ l₂ : List α}

/-- An element is inserted between those that it may not stand before and those that it may. -/
theorem orderedInsert_append (h₁ : ∀ b ∈ l₁, ¬r a b) (h₂ : ∀ b ∈ l₂, r a b) :
    (l₁ ++ l₂).orderedInsert r a = l₁ ++ a :: l₂ := by
  induction l₁ with
  | nil =>
    cases l₂ with
    | nil => rfl
    | cons c l₂ => exact List.orderedInsert_cons_of_le r l₂ (h₂ c List.mem_cons_self)
  | cons b l₁ ih =>
    rw [List.cons_append, List.orderedInsert_cons, if_neg (h₁ b List.mem_cons_self),
      ih fun c hc => h₁ c (List.mem_cons_of_mem b hc)]
    rfl

/-- Merge sort by a total and transitive relation is insertion sort. -/
theorem mergeSort_eq_insertionSort (htrans : ∀ a b c, r a b → r b c → r a c)
    (htotal : ∀ a b, r a b ∨ r b a) (l : List α) :
    l.mergeSort (fun a b => decide (r a b)) = l.insertionSort r := by
  have trans : ∀ a b c, decide (r a b) = true → decide (r b c) = true → decide (r a c) = true := by
    simpa using htrans
  have total : ∀ a b, (decide (r a b) || decide (r b a)) = true := by
    simpa using htotal
  induction l with
  | nil => exact List.mergeSort_nil
  | cons a l ih =>
    obtain ⟨l₁, l₂, hcons, hl, hbefore⟩ := List.mergeSort_cons trans total a l
    have hsorted := List.pairwise_mergeSort trans total (a :: l)
    rw [hcons, List.pairwise_append, List.pairwise_cons] at hsorted
    rw [List.insertionSort_cons, ← ih, hcons, hl, orderedInsert_append]
    · intro b hb
      simpa using hbefore b hb
    · intro b hb
      exact of_decide_eq_true (hsorted.2.1.1 b hb)

end

/-! ## Matches by score -/

/-- Matches in descending order of their scores, ties in the order given. -/
def ranked (matches' : List Match) : List Match :=
  matches'.mergeSort fun a b => scoreAtLeast a.score b.score

/-- One match may stand before another if its score does not stand below the other's. -/
def MayPrecede (a b : Match) : Prop := ¬StandsBelow a.score b.score

instance : DecidableRel MayPrecede := fun a b =>
  inferInstanceAs (Decidable ¬StandsBelow a.score b.score)

variable {ms : List Match} {m o : Match}

/-- Scores decide by their keys which match may stand first. -/
theorem scoreAtLeast_iff_mayPrecede {a b : Match} :
    scoreAtLeast a.score b.score = true ↔ MayPrecede a b := by
  rw [scoreAtLeast_iff, MayPrecede, ← scoreKey_lt_iff, Int.not_lt]

/-- Matches are sorted by a transitive test. -/
theorem scoreOrder_trans (a b c : Match) (hab : scoreAtLeast a.score b.score = true)
    (hbc : scoreAtLeast b.score c.score = true) : scoreAtLeast a.score c.score = true :=
  scoreAtLeast_trans hab hbc

/-- Matches are sorted by a total test. -/
theorem scoreOrder_total (a b : Match) :
    (scoreAtLeast a.score b.score || scoreAtLeast b.score a.score) = true :=
  scoreAtLeast_total a.score b.score

/-- Which match may stand first is a transitive relation. -/
theorem MayPrecede.trans {a b c : Match} (hab : MayPrecede a b) (hbc : MayPrecede b c) :
    MayPrecede a c := by
  rw [← scoreAtLeast_iff_mayPrecede] at hab hbc ⊢
  exact scoreOrder_trans a b c hab hbc

/-- Of two matches, one may stand first. -/
theorem mayPrecede_total (a b : Match) : MayPrecede a b ∨ MayPrecede b a := by
  rw [← scoreAtLeast_iff_mayPrecede, ← scoreAtLeast_iff_mayPrecede, ← Bool.or_eq_true]
  exact scoreOrder_total a b

/-- Sorting inserts each match behind those before it that do not stand below. -/
theorem ranked_eq_insertionSort (ms : List Match) : ranked ms = ms.insertionSort MayPrecede := by
  have hle : (fun a b : Match => scoreAtLeast a.score b.score) =
      fun a b => decide (MayPrecede a b) := by
    funext a b
    rw [Bool.eq_iff_iff, decide_eq_true_iff]
    exact scoreAtLeast_iff_mayPrecede
  rw [ranked, hle]
  exact mergeSort_eq_insertionSort (r := MayPrecede) (fun _ _ _ hab hbc => hab.trans hbc)
    mayPrecede_total ms

/-- Sorting puts no match before one with a score above its own. -/
theorem pairwise_ranked (ms : List Match) : (ranked ms).Pairwise MayPrecede := by
  have hsorted := List.pairwise_mergeSort scoreOrder_trans scoreOrder_total ms
  exact hsorted.imp scoreAtLeast_iff_mayPrecede.1

/-- Sorting keeps the matches. -/
theorem ranked_perm (ms : List Match) : (ranked ms).Perm ms := List.mergeSort_perm _ _

/-- What is in order already stays as it is. -/
theorem ranked_of_pairwise (h : ms.Pairwise MayPrecede) : ranked ms = ms := by
  refine List.mergeSort_of_pairwise (h.imp fun hab => ?_)
  exact scoreAtLeast_iff_mayPrecede.2 hab

/-- What a cut leaves out of matches in order does not stand above what it keeps. -/
theorem mayPrecede_of_not_mem_take {n : Nat} (h : ms.Pairwise MayPrecede) (hm : m ∈ ms.take n)
    (ho : o ∈ ms) (hout : o ∉ ms.take n) : MayPrecede m o := by
  rw [← List.take_append_drop n ms] at h ho
  have hdrop : o ∈ ms.drop n := (List.mem_append.1 ho).resolve_left hout
  exact (List.pairwise_append.1 h).2.2 m hm o hdrop

/-! ## Numeric order -/

/-- Numeric order of scores from the first match to the last, for every pair. -/
abbrev NonIncreasing (matches' : List Match) : Prop :=
  matches'.Pairwise fun a b => b.score ≤ a.score

/-- No score is something else than a number. -/
abbrev AllNumbers (matches' : List Match) : Prop := ∀ m ∈ matches', m.score.isNaN = false

/-- Sorting puts matches in numeric order, if their scores are numbers. -/
theorem nonIncreasing_ranked (h : AllNumbers ms) : NonIncreasing (ranked ms) := by
  refine (pairwise_ranked ms).imp_of_mem fun {a b} ha hb hab => ?_
  have hkeys : scoreKey b.score ≤ scoreKey a.score :=
    scoreAtLeast_iff.1 (scoreAtLeast_iff_mayPrecede.2 hab)
  exact Binary64.le_of_scoreKey_le (h b ((ranked_perm ms).mem_iff.1 hb))
    (h a ((ranked_perm ms).mem_iff.1 ha)) hkeys

/-- Matches that are in order from each to the next are in order for every pair, if their scores
are numbers. -/
theorem nonIncreasing_of_inFusedOrder (h : AllNumbers ms) (horder : inFusedOrder ms = true) :
    NonIncreasing ms := by
  induction ms with
  | nil => exact .nil
  | cons a rest ih =>
    cases rest with
    | nil => exact List.pairwise_singleton _ a
    | cons b rest =>
      have hsplit : (decide (b.score ≤ a.score) && inFusedOrder (b :: rest)) = true := horder
      obtain ⟨hba, hrest⟩ := Bool.and_eq_true_iff.1 hsplit
      have hba := of_decide_eq_true hba
      have ih := ih (fun m hm => h m (List.mem_cons_of_mem a hm)) hrest
      refine List.pairwise_cons.2 ⟨fun c hc => ?_, ih⟩
      rcases List.mem_cons.1 hc with rfl | hc'
      · exact hba
      · have hcb : c.score ≤ b.score := (List.pairwise_cons.1 ih).1 c hc'
        have hb : b ∈ a :: b :: rest := List.mem_cons_of_mem a List.mem_cons_self
        exact Binary64.le_trans_of_not_isNaN (h c (List.mem_cons_of_mem a hc)) (h b hb)
          (h a List.mem_cons_self) hcb hba

/-! ## Fused matches -/

variable [NanRule]

/-- The matches of merged documents, with the scores that a fusion gives them. -/
def scored (p : FusionParameters) (entries : List Merged) : List Match :=
  entries.map fun m => m.toMatch (m.score p)

/-- A fusion scores what merging gathers, puts it in order and cuts it. -/
theorem fuse_eq (p : FusionParameters) (keyword semantic : List Hit) :
    fuse p keyword semantic =
      (ranked (scored p (merge keyword semantic))).take p.matchCount.toNat := by
  have hsort := List.map_mergeSort (r := fun a b : Merged × Binary64 => scoreAtLeast a.2 b.2)
    (s := fun a b : Match => scoreAtLeast a.score b.score) (f := fun a => a.1.toMatch a.2)
    (l := (merge keyword semantic).map fun m => (m, m.score p)) fun _ _ _ _ => rfl
  rw [List.map_map] at hsort
  rw [fuse, rankBy, List.map_take]
  exact congrArg (List.take p.matchCount.toNat) hsort

end SearchGateway
