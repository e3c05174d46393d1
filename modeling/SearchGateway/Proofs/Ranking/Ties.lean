import SearchGateway.Proofs.Ranking.Reference
import SearchGateway.Proofs.Ranking.Stability

/-!
# Ties

Matches whose scores are equal as numbers are to keep the order in which they were seen
(`KeepsTies`). Scores that are not zero do, since no other double equals them
(`filter_take_ranked`). Of zeros, the order of matches puts the negative one below the other, so
they keep it exactly if no match with the negative zero is overtaken: those that are returned were
seen behind all matches with the other zero (`keepsTies_take_ranked_iff`). A fusion has no negative
zeros to order where one of its weights has no sign (`ne_negZero_of_mem_referenceMatches`).
-/

namespace SearchGateway

open Binary64 (NanRule StandsBelow Unsigned)

/-! ## Lists in two parts -/

section
variable {α : Type} {p : α → Bool} {l ps ns : List α}

/-- A list in which all that satisfies a test comes first is both parts one behind the other. -/
theorem filter_append_filter_not (h : l.Pairwise fun a b => p b = true → p a = true) :
    l.filter p ++ l.filter (!p ·) = l := by
  induction l with
  | nil => rfl
  | cons a l ih =>
    obtain ⟨ha, hl⟩ := List.pairwise_cons.1 h
    cases hp : p a with
    | true =>
      rw [List.filter_cons_of_pos hp, List.filter_cons_of_neg (by simp [hp]), List.cons_append,
        ih hl]
    | false =>
      have hnone : ∀ b ∈ a :: l, ¬p b = true := by
        intro b hb
        rcases List.mem_cons.1 hb with rfl | hb
        · simp [hp]
        · intro hpb
          rw [ha b hb hpb] at hp
          cases hp
      rw [List.filter_eq_nil_iff.2 hnone, List.nil_append, List.filter_eq_self]
      intro b hb
      simpa using hnone b hb

/-- A list is cut behind the last element that satisfies a test. -/
theorem exists_append_last (p : α → Bool) (l : List α) :
    ∃ before after, l = before ++ after ∧ (∀ a ∈ after, p a = false) ∧
      (before = [] ∨ ∃ before' a, before = before' ++ [a] ∧ p a = true) := by
  induction l with
  | nil => exact ⟨[], [], rfl, nofun, .inl rfl⟩
  | cons a l ih =>
    obtain ⟨before, after, rfl, hafter, hbefore⟩ := ih
    rcases hbefore with rfl | ⟨before', b, rfl, hb⟩
    · cases hp : p a with
      | true => exact ⟨[a], after, rfl, hafter, .inr ⟨[], a, rfl, hp⟩⟩
      | false => exact ⟨[], a :: after, rfl, List.forall_mem_cons.2 ⟨hp, hafter⟩, .inl rfl⟩
    · exact ⟨a :: (before' ++ [b]), after, rfl, hafter, .inr ⟨a :: before', b, rfl, hb⟩⟩

/-- A sublist that ends with another element than a list is one without the list's last element. -/
theorem sublist_of_concat_sublist_concat {a b : α} {l' : List α} (hne : b ≠ a)
    (h : (l ++ [b]).Sublist (l' ++ [a])) : (l ++ [b]).Sublist l' := by
  rw [← List.reverse_sublist, List.reverse_concat, List.reverse_concat] at h
  rw [← List.reverse_sublist, List.reverse_concat]
  cases h with
  | cons _ h => exact h
  | cons_cons => exact absurd rfl hne

/-- If all elements of a list that satisfy a test come in a sublist before some that do not, then
these come in the list behind all that do. -/
theorem exists_append_of_sublist (hps : ∀ a ∈ ps, p a = true) (hns : ∀ a ∈ ns, p a = false)
    (hall : l.countP p ≤ ps.length) (h : (ps ++ ns).Sublist l) :
    ∃ before after, l = before ++ after ∧ (∀ a ∈ after, p a = false) ∧ ns.Sublist after := by
  obtain ⟨before, after, rfl, hafter, hbefore⟩ := exists_append_last p l
  refine ⟨before, after, rfl, hafter, ?_⟩
  obtain ⟨u, v, hsplit, hu, hv⟩ := List.sublist_append_iff.1 h
  rcases List.append_eq_append_iff.1 hsplit with ⟨w, rfl, rfl⟩ | ⟨w, rfl, rfl⟩
  · rcases List.eq_nil_or_concat w with rfl | ⟨w, b, rfl⟩
    · exact hv
    · -- else one of `ns` stands before the last element that satisfies the test
      exfalso
      have hb : p b = false := hns b (by simp)
      rcases hbefore with rfl | ⟨before, a, rfl, ha⟩
      · simp at hu
      · have hne : b ≠ a := by
          rintro rfl
          rw [ha] at hb
          cases hb
        rw [List.concat_eq_append, ← List.append_assoc] at hu
        have hcount : (ps ++ w ++ [b]).countP p ≤ before.countP p :=
          (sublist_of_concat_sublist_concat hne hu).countP_le
        have hcountps : ps.countP p = ps.length := List.countP_eq_length.2 hps
        simp only [List.countP_append, List.countP_singleton, ha, if_true, hcountps] at hall hcount
        omega
  · exact (List.sublist_append_right w ns).trans hv

end

/-! ## Matches of one score -/

/-- The matches of a ranking whose score equals a given one come in the order in which they were
seen. -/
def TiesAsSeen (x : Binary64) (seen ranking : List Match) : Prop :=
  (ranking.filter (·.score == x)).Sublist (seen.filter (·.score == x))

/-- Ties keep the order in which they were seen, those of both zeros included. -/
def KeepsTies (seen ranking : List Match) : Prop := ∀ x, TiesAsSeen x seen ranking

/-- The matches of a ranking with the negative zero for a score were seen behind all matches with
zero. -/
def NegZerosLast (seen ranking : List Match) : Prop :=
  ∃ before after, seen = before ++ after ∧ (∀ m ∈ after, m.score ≠ 0.0) ∧
    (ranking.filter (·.score = -0.0)).Sublist after

variable {seen : List Match} {n : Nat}

/-- Where no match has the negative zero, none was seen before a match with zero. -/
theorem negZerosLast_of_eq_nil {ranking : List Match}
    (h : ranking.filter (·.score = -0.0) = []) : NegZerosLast seen ranking := by
  refine ⟨seen, [], (List.append_nil seen).symm, List.forall_mem_nil _, ?_⟩
  rw [h]

/-- What stands first stands first among the matches of each kind. -/
theorem filter_take_isPrefix (p : Match → Bool) (ms : List Match) (n : Nat) :
    (ms.take n).filter p <+: ms.filter p := by
  obtain ⟨rest, hrest⟩ := List.take_prefix n ms
  refine ⟨rest.filter p, ?_⟩
  rw [← List.filter_append, hrest]

/-- A ranking that is cut off where it was seen keeps ties. -/
theorem keepsTies_take (seen : List Match) (n : Nat) : KeepsTies seen (seen.take n) := fun _ =>
  (filter_take_isPrefix _ seen n).sublist

/-- Sorting keeps the order of matches that have one score. -/
theorem filter_ranked {p : Match → Bool} (ms : List Match)
    (hp : ∀ a b : Match, p a = true → p b = true → a.score = b.score) :
    (ranked ms).filter p = ms.filter p := by
  have hties : ∀ a b : Match, p a = true → p b = true → scoreAtLeast a.score b.score = true := by
    intro a b ha hb
    rw [hp a b ha hb]
    exact scoreAtLeast_iff.2 (Int.le_refl _)
  exact filter_mergeSort scoreOrder_trans scoreOrder_total hties ms

/-- Sorting keeps the order of matches with a given score, to the sign of zero. -/
theorem filter_score_ranked (x : Binary64) (ms : List Match) :
    (ranked ms).filter (·.score = x) = ms.filter (·.score = x) := by
  refine filter_ranked ms fun a b ha hb => ?_
  rw [of_decide_eq_true ha, of_decide_eq_true hb]

/-- Among the matches of one score that is not zero, a ranking has those that were seen first, in
the order in which they were seen. -/
theorem filter_take_ranked {x : Binary64} (hx : (x == 0) = false) (seen : List Match) (n : Nat) :
    ((ranked seen).take n).filter (·.score == x) <+: seen.filter (·.score == x) := by
  have hties : (ranked seen).filter (·.score == x) = seen.filter (·.score == x) := by
    refine filter_ranked seen fun a b ha hb => ?_
    rw [Binary64.eq_of_beq ha hx, Binary64.eq_of_beq hb hx]
  rw [← hties]
  exact filter_take_isPrefix _ _ n

/-- In order, no match with zero stands behind one with the negative zero. -/
theorem score_ne_zero_of_mayPrecede {a b : Match} (h : MayPrecede a b) (ha : a.score = -0.0) :
    b.score ≠ 0.0 := by
  intro hb
  rw [MayPrecede, ha, hb] at h
  exact h (by decide)

/-- A match with the negative zero is not one with zero. -/
theorem score_ne_zero_of_negZero {m : Match} (h : m.score = -0.0) : m.score ≠ 0.0 := by
  rw [h]
  decide

/-- Of matches in order, those whose score equals zero are those with zero, followed by those with
the negative zero. -/
theorem filter_beq_zero {ms : List Match} (h : ms.Pairwise MayPrecede) :
    ms.filter (·.score == 0) = ms.filter (·.score = 0.0) ++ ms.filter (·.score = -0.0) := by
  have horder : (ms.filter (·.score == 0)).Pairwise fun a b =>
      decide (b.score = 0.0) = true → decide (a.score = 0.0) = true := by
    refine (h.filter _).imp_of_mem fun {a b} ha _ hab hb => ?_
    rcases Binary64.beq_zero_iff.1 (List.mem_filter.1 ha).2 with hzero | hneg
    · exact decide_eq_true hzero
    · exact absurd (of_decide_eq_true hb) (score_ne_zero_of_mayPrecede hab hneg)
  have hzero : (ms.filter (·.score == 0)).filter (·.score = 0.0) = ms.filter (·.score = 0.0) := by
    rw [List.filter_filter]
    refine List.filter_congr fun m _ => ?_
    rw [Bool.eq_iff_iff, Bool.and_eq_true, decide_eq_true_iff, Binary64.beq_zero_iff]
    exact and_iff_left_of_imp .inl
  have hneg : (ms.filter (·.score == 0)).filter (fun m => !decide (m.score = 0.0)) =
      ms.filter (·.score = -0.0) := by
    rw [List.filter_filter]
    refine List.filter_congr fun m _ => ?_
    rw [Bool.eq_iff_iff, Bool.and_eq_true, Bool.not_eq_true', decide_eq_false_iff_not,
      decide_eq_true_iff, Binary64.beq_zero_iff]
    constructor
    · rintro ⟨hne, hzero | hneg⟩
      · exact absurd hzero hne
      · exact hneg
    · intro hneg
      exact ⟨score_ne_zero_of_negZero hneg, .inr hneg⟩
  rw [← filter_append_filter_not horder, hzero, hneg]

/-- What equals a zero as a number equals zero. -/
theorem filter_beq_of_zero {x : Binary64} (hx : (x == 0) = true) (ms : List Match) :
    ms.filter (·.score == x) = ms.filter (·.score == 0) := by
  exact List.filter_congr fun m _ => Binary64.beq_congr_of_zero hx

/-- Where a match with the negative zero is returned, all matches with zero are. -/
theorem filter_zero_take_ranked {m : Match} (hm : m ∈ (ranked seen).take n)
    (hscore : m.score = -0.0) :
    ((ranked seen).take n).filter (·.score = 0.0) = seen.filter (·.score = 0.0) := by
  have hnone : ((ranked seen).drop n).filter (·.score = 0.0) = [] := by
    refine List.filter_eq_nil_iff.2 fun o ho => ?_
    have horder := pairwise_ranked seen
    rw [← List.take_append_drop n (ranked seen), List.pairwise_append] at horder
    simpa using score_ne_zero_of_mayPrecede (horder.2.2 m hm o ho) hscore
  have hall := filter_score_ranked 0.0 seen
  rwa [← List.take_append_drop n (ranked seen), List.filter_append, hnone,
    List.append_nil] at hall

/-- Sorted matches keep ties exactly if those that are returned with the negative zero were seen
behind all with zero. -/
theorem keepsTies_take_ranked_iff (seen : List Match) (n : Nat) :
    KeepsTies seen ((ranked seen).take n) ↔ NegZerosLast seen ((ranked seen).take n) := by
  have horder : ((ranked seen).take n).Pairwise MayPrecede :=
    (pairwise_ranked seen).sublist (List.take_sublist _ _)
  constructor
  · intro h
    have hzeros := (h 0).trans List.filter_sublist
    rw [filter_beq_zero horder] at hzeros
    cases hneg : ((ranked seen).take n).filter (·.score = -0.0) with
    | nil => exact negZerosLast_of_eq_nil hneg
    | cons m rest =>
      have hm : m ∈ ((ranked seen).take n).filter (·.score = -0.0) := by
        rw [hneg]
        exact List.mem_cons_self
      obtain ⟨hm, hscore⟩ := List.mem_filter.1 hm
      rw [filter_zero_take_ranked hm (of_decide_eq_true hscore)] at hzeros
      obtain ⟨before, after, hseen, hafter, hbehind⟩ :=
        exists_append_of_sublist (fun m hm => (List.mem_filter.1 hm).2)
          (fun m hm => decide_eq_false (score_ne_zero_of_negZero
            (of_decide_eq_true (List.mem_filter.1 hm).2)))
          List.countP_eq_length_filter.le hzeros
      exact ⟨before, after, hseen, fun m hm => of_decide_eq_false (hafter m hm), hbehind⟩
  · rintro ⟨before, after, rfl, hafter, hneg⟩ x
    cases hx : x == 0 with
    | false => exact (filter_take_ranked hx _ n).sublist
    | true =>
      have hzero : ((ranked (before ++ after)).take n).filter (·.score = 0.0) <+:
          before.filter (·.score = 0.0) := by
        have hnone : after.filter (·.score = 0.0) = [] := by
          simpa using hafter
        have hprefix := filter_take_isPrefix (·.score = 0.0) (ranked (before ++ after)) n
        rwa [filter_score_ranked, List.filter_append, hnone, List.append_nil] at hprefix
      have hzeros := ((hzero.sublist.trans List.filter_sublist).append hneg).filter (·.score == 0)
      rw [← filter_beq_zero horder, List.filter_filter] at hzeros
      unfold TiesAsSeen
      rw [filter_beq_of_zero hx, filter_beq_of_zero hx]
      simpa using hzeros

/-- Without negative zeros, sorted matches keep ties. -/
theorem keepsTies_take_ranked (h : ∀ m ∈ seen, m.score ≠ -0.0) (n : Nat) :
    KeepsTies seen ((ranked seen).take n) := by
  have hnone : ((ranked seen).take n).filter (·.score = -0.0) = [] := by
    refine List.filter_eq_nil_iff.2 fun m hm => ?_
    simpa using h m ((ranked_perm seen).mem_iff.1 (List.mem_of_mem_take hm))
  exact (keepsTies_take_ranked_iff seen n).2 (negZerosLast_of_eq_nil hnone)

/-! ## Fused scores -/

variable [NanRule]

/-- With a weight that has no sign, a source does not add the negative zero. -/
theorem hitTerm_ne_negZero {weight : Binary64} (hw : Unsigned weight) (k : UInt32)
    (best : Option Hit) : hitTerm weight k best ≠ -0.0 := by
  cases best with
  | none =>
    have hzero : (0.0 : Binary64) ≠ -0.0 := by decide
    exact hzero
  | some h =>
    exact Binary64.ne_negZero_div hw (Binary64.atLeastOne_divisor k (max_one_ne_zero h.rank))

/-- A fused score is the negative zero only if both sources rank the document and add it, so not
where one of the weights has no sign. -/
theorem ne_negZero_of_mem_referenceMatches {p : FusionParameters} {keyword semantic : List Hit}
    (hw : Unsigned p.fullTextWeight ∨ Unsigned p.semanticWeight) :
    ∀ m ∈ referenceMatches p keyword semantic, m.score ≠ -0.0 := by
  intro m hm hscore
  obtain ⟨id, -, hmatch⟩ := List.mem_filterMap.1 hm
  obtain ⟨document, -, rfl⟩ := Option.map_eq_some_iff.1 hmatch
  obtain ⟨hkeyword, hsemantic⟩ := Binary64.eq_negZero_of_add hscore
  rcases hw with hw | hw
  · exact hitTerm_ne_negZero hw _ _ hkeyword
  · exact hitTerm_ne_negZero hw _ _ hsemantic

end SearchGateway
