import Mathlib.Algebra.Order.Field.Rat
import Mathlib.Tactic.Positivity
import SearchGateway.Proofs.Ranking.Reference

/-!
# Dominance

A document dominates another if every source that ranks the other ranks it no worse (`NoWorse`).
Fusion by reciprocal ranks respects this: with weights that are not negative, what dominates has no
smaller score, and a greater one where a source that counts ranks it strictly better (`Outranks`).
So it does not stand behind, and is not cut off before, what it dominates.

The statements are about exact numbers, in which no difference between ranks is rounded away:
`fuseExactly` is `fuse` with its scores computed in rationals. In `Checked` numbers a division by
anything but a positive number has no result; a score that is computed in them has one.
-/

namespace SearchGateway

/-! ## Ranks of documents -/

/-- The rank that counts: 0 counts as 1. -/
def effectiveRank (rank : UInt32) : Nat := max rank.toNat 1

/-- A source ranks `d` no worse than `e`: each hit of `e` is matched by one of `d` whose rank is no
worse. -/
def NoWorse (ranking : List Hit) (d e : DocumentId) : Prop :=
  ∀ h ∈ ranking, h.document.id = e →
    ∃ g ∈ ranking, g.document.id = d ∧ effectiveRank g.rank ≤ effectiveRank h.rank

/-- A source ranks `d` strictly better than `e`: it has a hit of `d` whose rank is better than that
of every hit of `e`, if there are any. -/
def Outranks (ranking : List Hit) (d e : DocumentId) : Prop :=
  ∃ g ∈ ranking, g.document.id = d ∧
    ∀ h ∈ ranking, h.document.id = e → effectiveRank g.rank < effectiveRank h.rank

variable {ranking keyword semantic : List Hit} {d e id : DocumentId} {g : Hit}

instance : Decidable (NoWorse ranking d e) :=
  inferInstanceAs (Decidable (∀ h ∈ ranking, h.document.id = e →
    ∃ g ∈ ranking, g.document.id = d ∧ effectiveRank g.rank ≤ effectiveRank h.rank))

instance : Decidable (Outranks ranking d e) :=
  inferInstanceAs (Decidable (∃ g ∈ ranking, g.document.id = d ∧
    ∀ h ∈ ranking, h.document.id = e → effectiveRank g.rank < effectiveRank h.rank))

/-- A document that is hit has a best hit, which counts for no more than the one at hand. -/
theorem exists_bestHit?_le (hg : g ∈ ranking) :
    ∃ best, bestHit? ranking g.document.id = some best ∧
      effectiveRank best.rank ≤ effectiveRank g.rank := by
  have hsome : bestHit? ranking g.document.id ≠ none := by
    rw [Ne, bestHit?_eq_none, not_not, mem_distinctIds]
    exact ⟨g, hg, rfl⟩
  obtain ⟨best, hbest⟩ := Option.ne_none_iff_exists'.1 hsome
  exact ⟨best, hbest, max_le_max_right 1 (rank_le_of_bestHit? hbest hg)⟩

/-! ## Terms -/

/-- A count as an exact number. -/
def exactCount (n : UInt32) : ℚ := n.toNat

/-- What a source adds to a score, exactly. -/
def exactTerm (weight : ℚ) (k : UInt32) : Option Hit → ℚ
  | some h => weight / (k.toNat + effectiveRank h.rank)
  | none => 0

variable {weight : ℚ} {k : UInt32}

/-- The divisor of a term is positive. -/
theorem divisor_pos (k rank : UInt32) : (0 : ℚ) < k.toNat + effectiveRank rank := by
  have hrank : (0 : ℚ) < effectiveRank rank := Nat.cast_pos.2 (Nat.le_max_right _ 1)
  positivity

/-- The rank that a term divides by is the one that counts. -/
theorem exactCount_max_one (rank : UInt32) : exactCount (max rank 1) = effectiveRank rank := by
  have hmax : (max rank 1).toNat = effectiveRank rank := by
    change (if rank ≤ 1 then 1 else rank).toNat = max rank.toNat 1
    have hone : rank ≤ 1 ↔ rank.toNat ≤ 1 := UInt32.le_iff_toNat_le
    split
    · next hle => exact (max_eq_right (hone.1 hle)).symm
    · next hlt =>
      rw [hone, Nat.not_le] at hlt
      exact (max_eq_left hlt.le).symm
  rw [exactCount, hmax]

/-- The term of a place is that of the hit in it. -/
theorem exactTerm_standing (weight : ℚ) (k : UInt32) (best : Option Hit) :
    Standing.termIn exactCount weight k (best.map Hit.standing) = exactTerm weight k best := by
  cases best with
  | none => rfl
  | some h =>
    change weight / (exactCount k + exactCount (max h.rank 1)) = _
    rw [exactCount_max_one]
    rfl

/-- A term is not negative. -/
theorem exactTerm_nonneg (hweight : 0 ≤ weight) (best : Option Hit) :
    0 ≤ exactTerm weight k best := by
  cases best with
  | none => exact le_refl 0
  | some h => exact div_nonneg hweight (divisor_pos k h.rank).le

/-- A rank that is no worse adds no less. -/
theorem NoWorse.exactTerm_le (hno : NoWorse ranking d e) (hweight : 0 ≤ weight) :
    exactTerm weight k (bestHit? ranking e) ≤ exactTerm weight k (bestHit? ranking d) := by
  cases he : bestHit? ranking e with
  | none => exact exactTerm_nonneg hweight _
  | some h =>
    obtain ⟨hmem, hid⟩ := mem_of_bestHit? he
    obtain ⟨g, hg, rfl, hle⟩ := hno h hmem hid
    obtain ⟨best, hbest, hbestle⟩ := exists_bestHit?_le hg
    have hrank : (effectiveRank best.rank : ℚ) ≤ effectiveRank h.rank :=
      Nat.cast_le.2 (hbestle.trans hle)
    rw [hbest]
    exact div_le_div_of_nonneg_left hweight (divisor_pos k best.rank) (by linarith)

/-- A rank that is strictly better adds more, if the weight is positive. -/
theorem Outranks.exactTerm_lt (hout : Outranks ranking d e) (hweight : 0 < weight) :
    exactTerm weight k (bestHit? ranking e) < exactTerm weight k (bestHit? ranking d) := by
  obtain ⟨g, hg, rfl, hbetter⟩ := hout
  obtain ⟨best, hbest, hle⟩ := exists_bestHit?_le hg
  rw [hbest]
  cases he : bestHit? ranking e with
  | none => exact div_pos hweight (divisor_pos k best.rank)
  | some h =>
    obtain ⟨hmem, hid⟩ := mem_of_bestHit? he
    have hrank : (effectiveRank best.rank : ℚ) < effectiveRank h.rank :=
      Nat.cast_lt.2 (hle.trans_lt (hbetter h hmem hid))
    exact div_lt_div_of_pos_left hweight (divisor_pos k best.rank) (by linarith)

/-! ## Scores -/

/-- The parameters of a fusion in exact numbers. The weights are not negative. -/
structure ExactParameters where
  fullTextWeight : ℚ
  semanticWeight : ℚ
  rrfK : UInt32
  matchCount : UInt32
  fullTextWeight_nonneg : 0 ≤ fullTextWeight
  semanticWeight_nonneg : 0 ≤ semanticWeight

/-- The score of a document, exactly: what both sources add. -/
def exactScore (p : ExactParameters) (keyword semantic : List Hit) (id : DocumentId) : ℚ :=
  exactTerm p.fullTextWeight p.rrfK (bestHit? keyword id) +
    exactTerm p.semanticWeight p.rrfK (bestHit? semantic id)

/-- The score of a merged document, exactly. -/
def Merged.exactScore (p : ExactParameters) (m : Merged) : ℚ :=
  m.scoreIn exactCount p.fullTextWeight p.semanticWeight p.rrfK

variable {p : ExactParameters}

/-- A score is not negative. -/
theorem exactScore_nonneg (p : ExactParameters) (keyword semantic : List Hit) (id : DocumentId) :
    0 ≤ exactScore p keyword semantic id :=
  add_nonneg (exactTerm_nonneg p.fullTextWeight_nonneg _)
    (exactTerm_nonneg p.semanticWeight_nonneg _)

/-- A document scores no less than what it dominates. -/
theorem exactScore_le_of_noWorse (hkeyword : NoWorse keyword d e)
    (hsemantic : NoWorse semantic d e) :
    exactScore p keyword semantic e ≤ exactScore p keyword semantic d :=
  add_le_add (hkeyword.exactTerm_le p.fullTextWeight_nonneg)
    (hsemantic.exactTerm_le p.semanticWeight_nonneg)

/-- It scores more where a source with a positive weight ranks it strictly better. -/
theorem exactScore_lt_of_outranks (hkeyword : NoWorse keyword d e)
    (hsemantic : NoWorse semantic d e)
    (hbetter : 0 < p.fullTextWeight ∧ Outranks keyword d e ∨
      0 < p.semanticWeight ∧ Outranks semantic d e) :
    exactScore p keyword semantic e < exactScore p keyword semantic d := by
  rcases hbetter with ⟨hpos, hout⟩ | ⟨hpos, hout⟩
  · exact add_lt_add_of_lt_of_le (hout.exactTerm_lt hpos)
      (hsemantic.exactTerm_le p.semanticWeight_nonneg)
  · exact add_lt_add_of_le_of_lt (hkeyword.exactTerm_le p.fullTextWeight_nonneg)
      (hout.exactTerm_lt hpos)

/-- A merged document has the score of its document. -/
theorem exactScore_of_mem_merge {m : Merged} (hm : m ∈ merge keyword semantic) :
    m.exactScore p = exactScore p keyword semantic m.document.id := by
  obtain ⟨document, -, hentry⟩ :=
    Option.map_eq_some_iff.1 ((gathered_merge keyword semantic).entry m hm)
  have hkeyword : (bestHit? keyword m.document.id).map Hit.standing = m.keyword :=
    congrArg Merged.keyword hentry
  have hsemantic : (bestHit? semantic m.document.id).map Hit.standing = m.semantic :=
    congrArg Merged.semantic hentry
  unfold Merged.exactScore Merged.scoreIn exactScore
  rw [← hkeyword, ← hsemantic, exactTerm_standing, exactTerm_standing]

/-- A document with a positive score has been hit. -/
theorem mem_distinctIds_of_exactScore_pos (hpos : 0 < exactScore p keyword semantic id) :
    id ∈ distinctIds (keyword ++ semantic) := by
  by_contra hnone
  have hunhit : ∀ ranking : List Hit, ranking ⊆ keyword ++ semantic →
      bestHit? ranking id = none := by
    intro ranking hsub
    rw [bestHit?_eq_none, mem_distinctIds]
    rintro ⟨g, hg, hid⟩
    exact hnone (mem_distinctIds.2 ⟨g, hsub hg, hid⟩)
  rw [exactScore, hunhit keyword (List.subset_append_left _ _),
    hunhit semantic (List.subset_append_right _ _)] at hpos
  simp [exactTerm] at hpos

/-! ## Fusion in exact numbers -/

/-- Fuses two rankings as `fuse` does, with scores that are exact. -/
def fuseExactly (p : ExactParameters) (keyword semantic : List Hit) : List (Merged × ℚ) :=
  rankBy (Merged.exactScore p) (fun x y => decide (y ≤ x)) p.matchCount.toNat
    (merge keyword semantic)

/-- All merged documents with their exact scores, in descending order. -/
def rankedExactly (p : ExactParameters) (keyword semantic : List Hit) : List (Merged × ℚ) :=
  ((merge keyword semantic).map fun m => (m, m.exactScore p)).mergeSort
    fun x y => decide (y.2 ≤ x.2)

/-- A fusion is a cut of all documents in order. -/
theorem fuseExactly_eq_take (p : ExactParameters) (keyword semantic : List Hit) :
    fuseExactly p keyword semantic =
      (rankedExactly p keyword semantic).take p.matchCount.toNat := rfl

/-- The order is descending. -/
theorem pairwise_rankedExactly (p : ExactParameters) (keyword semantic : List Hit) :
    (rankedExactly p keyword semantic).Pairwise fun x y => y.2 ≤ x.2 := by
  have htrans : ∀ x y z : Merged × ℚ, decide (y.2 ≤ x.2) = true → decide (z.2 ≤ y.2) = true →
      decide (z.2 ≤ x.2) = true := by
    intro x y z hxy hyz
    simp only [decide_eq_true_eq] at hxy hyz ⊢
    exact hyz.trans hxy
  have htotal : ∀ x y : Merged × ℚ, (decide (y.2 ≤ x.2) || decide (x.2 ≤ y.2)) = true := by
    intro x y
    simpa using le_total y.2 x.2
  exact (List.pairwise_mergeSort htrans htotal _).imp of_decide_eq_true

/-- A ranked document has the score of its document. -/
theorem score_of_mem_rankedExactly {x : Merged × ℚ} (hx : x ∈ rankedExactly p keyword semantic) :
    x.2 = exactScore p keyword semantic x.1.document.id := by
  obtain ⟨m, hm, rfl⟩ := List.mem_map.1 (List.mem_mergeSort.1 hx)
  exact exactScore_of_mem_merge hm

/-- A document that is kept has the score of its document. -/
theorem score_of_mem_fuseExactly {x : Merged × ℚ} (hx : x ∈ fuseExactly p keyword semantic) :
    x.2 = exactScore p keyword semantic x.1.document.id :=
  score_of_mem_rankedExactly (List.mem_of_mem_take hx)

/-- Every document that is hit is ranked. -/
theorem exists_mem_rankedExactly (p : ExactParameters)
    (hid : id ∈ distinctIds (keyword ++ semantic)) :
    ∃ x ∈ rankedExactly p keyword semantic, x.1.document.id = id := by
  rw [← (gathered_merge keyword semantic).ids] at hid
  obtain ⟨m, hm, rfl⟩ := List.mem_map.1 hid
  exact ⟨_, List.mem_mergeSort.2 (List.mem_map_of_mem hm), rfl⟩

/-- Where one document stands before another, its score is at least the other's. -/
theorem score_le_of_sublist_fuseExactly {x y : Merged × ℚ}
    (h : [x, y].Sublist (fuseExactly p keyword semantic)) : y.2 ≤ x.2 := by
  have hranked := h.trans (List.take_sublist _ _)
  exact List.pairwise_iff_forall_sublist.1 (pairwise_rankedExactly p keyword semantic) hranked

/-- A document that scores more than one that is kept is kept. -/
theorem mem_fuseExactly_of_score_lt {x y : Merged × ℚ} (hx : x ∈ rankedExactly p keyword semantic)
    (hy : y ∈ fuseExactly p keyword semantic) (hlt : y.2 < x.2) :
    x ∈ fuseExactly p keyword semantic := by
  rw [fuseExactly_eq_take] at hy ⊢
  have horder := pairwise_rankedExactly p keyword semantic
  rw [← List.take_append_drop p.matchCount.toNat (rankedExactly p keyword semantic)] at hx horder
  refine (List.mem_append.1 hx).resolve_right fun hdrop => ?_
  have hle : x.2 ≤ y.2 := (List.pairwise_append.1 horder).2.2 y hy x hdrop
  exact hle.not_gt hlt

/-! ## Checked numbers -/

/-- What a computation in exact numbers arrives at: nothing, if it divides by a number that is not
positive. -/
structure Checked where
  value? : Option ℚ

namespace Checked

/-- A number that has been arrived at. -/
def of (x : ℚ) : Checked := ⟨some x⟩

instance : Add Checked := ⟨fun x y => ⟨do return (← x.value?) + (← y.value?)⟩⟩

instance : Div Checked :=
  ⟨fun x y => ⟨do
    let dividend ← x.value?
    let divisor ← y.value?
    if 0 < divisor then some (dividend / divisor) else none⟩⟩

instance : OfNat Checked 0 := ⟨of 0⟩

/-- A quotient by a positive number is arrived at. -/
theorem of_div_of {x y : ℚ} (hy : 0 < y) : of x / of y = of (x / y) :=
  congrArg Checked.mk (if_pos hy)

/-- The term of a place is arrived at. -/
theorem termIn_of (weight : ℚ) (k : UInt32) (s : Option Standing) :
    Standing.termIn (fun n => of (exactCount n)) (of weight) k s =
      of (Standing.termIn exactCount weight k s) := by
  cases s with
  | none => rfl
  | some s =>
    have hpos := divisor_pos k s.rank
    rw [← exactCount_max_one] at hpos
    exact of_div_of hpos

/-- The score of a merged document is arrived at. -/
theorem scoreIn_of (p : ExactParameters) (m : Merged) :
    m.scoreIn (fun n => of (exactCount n)) (of p.fullTextWeight) (of p.semanticWeight) p.rrfK =
      of (m.exactScore p) := by
  unfold Merged.exactScore Merged.scoreIn
  rw [termIn_of, termIn_of]
  rfl

end Checked

/-- The divisor of a term in doubles is positive. -/
theorem zero_lt_divisor (k rank : UInt32) :
    0 < Binary64.ofCount k + Binary64.ofCount (max rank 1) :=
  Double.pos_of_atLeastOne (Binary64.atLeastOne_divisor k (max_one_ne_zero rank))

/-! ## Dominance -/

/-- What dominates has no smaller score, and a greater one where a source with a positive weight
ranks it strictly better; it stands behind what it dominates only where their scores are equal.
Whatever scores more than a document that is kept is kept too. The scores are those of the
documents, and every division that leads to them, also the one that doubles go through, is by a
positive number. -/
theorem fuseExactly_respects_dominance (p : ExactParameters) (keyword semantic : List Hit)
    (d e : DocumentId) :
    (NoWorse keyword d e → NoWorse semantic d e →
      exactScore p keyword semantic e ≤ exactScore p keyword semantic d ∧
      (0 < p.fullTextWeight ∧ Outranks keyword d e ∨
          0 < p.semanticWeight ∧ Outranks semantic d e →
        exactScore p keyword semantic e < exactScore p keyword semantic d) ∧
      ∀ x y, [x, y].Sublist (fuseExactly p keyword semantic) → x.1.document.id = e →
        y.1.document.id = d → x.2 = y.2) ∧
    (exactScore p keyword semantic e < exactScore p keyword semantic d →
      (∃ y ∈ fuseExactly p keyword semantic, y.1.document.id = e) →
      ∃ x ∈ fuseExactly p keyword semantic, x.1.document.id = d) ∧
    (∀ x ∈ fuseExactly p keyword semantic,
      x.2 = exactScore p keyword semantic x.1.document.id) ∧
    (∀ m ∈ merge keyword semantic,
      m.scoreIn (fun n => .of (exactCount n)) (.of p.fullTextWeight) (.of p.semanticWeight)
        p.rrfK = Checked.of (exactScore p keyword semantic m.document.id)) ∧
    ∀ (weight : Binary64) (rank : UInt32), ∃ divisor,
      reciprocalTerm weight p.rrfK rank = weight / divisor ∧ 0 < divisor := by
  refine ⟨fun hkeyword hsemantic => ⟨exactScore_le_of_noWorse hkeyword hsemantic,
    exactScore_lt_of_outranks hkeyword hsemantic, ?_⟩, ?_,
    fun x hx => score_of_mem_fuseExactly hx, ?_, ?_⟩
  · rintro x y hxy rfl rfl
    have hx := score_of_mem_fuseExactly (hxy.subset List.mem_cons_self)
    have hy := score_of_mem_fuseExactly (hxy.subset (List.mem_cons_of_mem x List.mem_cons_self))
    refine le_antisymm ?_ (score_le_of_sublist_fuseExactly hxy)
    rw [hx, hy]
    exact exactScore_le_of_noWorse hkeyword hsemantic
  · rintro hlt ⟨y, hy, rfl⟩
    have hpos := (exactScore_nonneg p keyword semantic y.1.document.id).trans_lt hlt
    obtain ⟨x, hx, rfl⟩ := exists_mem_rankedExactly p (mem_distinctIds_of_exactScore_pos hpos)
    refine ⟨x, mem_fuseExactly_of_score_lt hx hy ?_, rfl⟩
    rw [score_of_mem_rankedExactly hx, score_of_mem_fuseExactly hy]
    exact hlt
  · intro m hm
    rw [Checked.scoreIn_of, exactScore_of_mem_merge hm]
  · exact fun weight rank => ⟨_, rfl, zero_lt_divisor p.rrfK rank⟩

/-- The keyword hits of a document that is hit twice, better the second time, and of another. -/
def repeatedHits : List Hit :=
  [⟨⟨.int 7, none, .null, none⟩, 3, none⟩, ⟨⟨.text "7", none, .null, none⟩, 2, none⟩,
    ⟨⟨.int 7, none, .null, none⟩, 1, none⟩]

/-- The semantic hits of both documents, one with rank 0. -/
def topHits : List Hit :=
  [⟨⟨.text "7", none, .null, none⟩, 0, none⟩, ⟨⟨.int 7, none, .null, none⟩, 1, none⟩]

/-- Only the keyword hits have a weight, and nothing smooths their ranks. -/
def keywordAlone : ExactParameters := ⟨1, 0, 0, 2, zero_le_one, le_refl 0⟩

/-- The second of two hits of a document puts it in front of another. -/
theorem fuseExactly_respects_dominance_repeated :
    NoWorse repeatedHits (.int 7) (.text "7") ∧ NoWorse topHits (.int 7) (.text "7") ∧
      Outranks repeatedHits (.int 7) (.text "7") ∧
      exactScore keywordAlone repeatedHits topHits (.text "7") <
        exactScore keywordAlone repeatedHits topHits (.int 7) ∧
      ∃ x ∈ fuseExactly keywordAlone repeatedHits topHits, x.1.document.id = .int 7 := by
  have hkeyword : NoWorse repeatedHits (.int 7) (.text "7") := by decide
  have hsemantic : NoWorse topHits (.int 7) (.text "7") := by decide
  have hout : Outranks repeatedHits (.int 7) (.text "7") := by decide
  have hkept : ∃ y ∈ fuseExactly keywordAlone repeatedHits topHits,
      y.1.document.id = .text "7" := by
    have hlength : (rankedExactly keywordAlone repeatedHits topHits).length ≤
        keywordAlone.matchCount.toNat := by
      rw [rankedExactly, List.length_mergeSort, List.length_map]
      decide
    rw [fuseExactly_eq_take, List.take_of_length_le hlength]
    exact exists_mem_rankedExactly keywordAlone (by decide)
  obtain ⟨hdominates, hcut, -⟩ :=
    fuseExactly_respects_dominance keywordAlone repeatedHits topHits (.int 7) (.text "7")
  have hlt := (hdominates hkeyword hsemantic).2.1 (.inl ⟨zero_lt_one, hout⟩)
  exact ⟨hkeyword, hsemantic, hout, hlt, hcut hlt hkept⟩

end SearchGateway
