import Mathlib.Data.List.Nodup
import SearchGateway.Proofs.Ranking.Stability
import SearchGateway.Ranking.Hit

/-!
# The order of rows

A database lists the hits of both sources in one answer, in any order. Splitting the rows by source
and putting each part in the order of its ranks (`Rankings.ofRows`) undoes whatever order they came
in, apart from that of rows which tie, in source and rank. `isRankingOf_hitsOf` says what the
ranking of a source is, `IsRankingOf.unique` that nothing else is, and `Reordered.rankings_eq` what
follows for two answers with the same rows.
-/

namespace SearchGateway

/-- The ranking of a source. -/
def Rankings.of (c : Rankings) : Source → List Hit
  | .keyword => c.keyword
  | .semantic => c.semantic

/-- The place of a row: its source and its rank. -/
def SourcedHit.place (row : SourcedHit) : Source × UInt32 := (row.source, row.hit.rank)

/-- A ranking is that of a source: it has each hit of the source and no other one, in the order of
their ranks, and hits of one rank in the order of the rows. -/
structure IsRankingOf (source : Source) (rows : List SourcedHit) (ranking : List Hit) : Prop where
  perm : ranking.Perm ((rows.filter (·.source = source)).map (·.hit))
  sorted : ranking.Pairwise fun a b => a.rank ≤ b.rank
  ties : ∀ rank, ranking.filter (·.rank = rank) =
    (rows.filter (·.place = (source, rank))).map (·.hit)

variable {source : Source} {rows rows' : List SourcedHit}

/-- The hits of a source with a rank are the rows in that place. -/
theorem filter_rank_map_hit (source : Source) (rank : UInt32) (rows : List SourcedHit) :
    ((rows.filter (·.source = source)).map (·.hit)).filter (·.rank = rank) =
      (rows.filter (·.place = (source, rank))).map (·.hit) := by
  rw [List.filter_map, List.filter_filter]
  congr 1
  refine List.filter_congr fun row _ => ?_
  simp [SourcedHit.place, And.comm]

/-- Splitting gives the ranking of each source. -/
theorem isRankingOf_hitsOf (source : Source) (rows : List SourcedHit) :
    IsRankingOf source rows (hitsOf source rows) := by
  have hsource : rows.filter (·.source == source) = rows.filter (·.source = source) := rfl
  have htrans : ∀ a b c : Hit, decide (a.rank ≤ b.rank) = true → decide (b.rank ≤ c.rank) = true →
      decide (a.rank ≤ c.rank) = true := by
    intro a b c hab hbc
    exact decide_eq_true (UInt32.le_trans (of_decide_eq_true hab) (of_decide_eq_true hbc))
  have htotal : ∀ a b : Hit, (decide (a.rank ≤ b.rank) || decide (b.rank ≤ a.rank)) = true := by
    intro a b
    simpa using UInt32.le_total a.rank b.rank
  unfold hitsOf
  rw [hsource]
  refine ⟨List.mergeSort_perm _ _, ?_, fun rank => ?_⟩
  · exact (List.pairwise_mergeSort htrans htotal _).imp of_decide_eq_true
  · have hties : ∀ a b : Hit, decide (a.rank = rank) = true → decide (b.rank = rank) = true →
        decide (a.rank ≤ b.rank) = true := by
      intro a b ha hb
      rw [of_decide_eq_true ha, of_decide_eq_true hb]
      exact decide_eq_true (UInt32.le_refl _)
    rw [filter_mergeSort htrans htotal hties, filter_rank_map_hit]

/-- Rows that agree on the order of those in each place of a source have one ranking of it. -/
theorem IsRankingOf.unique {ranking ranking' : List Hit} (h : IsRankingOf source rows ranking)
    (h' : IsRankingOf source rows' ranking')
    (hties : ∀ rank, rows'.filter (·.place = (source, rank)) =
      rows.filter (·.place = (source, rank))) : ranking' = ranking := by
  refine eq_of_pairwise_of_filter_eq (fun hit : Hit => hit.rank.toNat)
    (h'.sorted.imp UInt32.le_iff_toNat_le.1) (h.sorted.imp UInt32.le_iff_toNat_le.1) fun k => ?_
  rcases Nat.lt_or_ge k UInt32.size with hk | hk
  · have hrank : ∀ ranking : List Hit, ranking.filter (·.rank.toNat = k) =
        ranking.filter (·.rank = UInt32.ofNatLT k hk) := by
      intro ranking
      refine List.filter_congr fun hit _ => ?_
      rw [decide_eq_decide, ← UInt32.toNat_inj]
      rfl
    rw [hrank, hrank, h'.ties, h.ties, hties]
  · have hnone : ∀ ranking : List Hit, ranking.filter (·.rank.toNat = k) = [] := by
      intro ranking
      refine List.filter_eq_nil_iff.2 fun hit _ => ?_
      have hlt := hit.rank.toNat_lt
      simpa using Nat.ne_of_lt (Nat.lt_of_lt_of_le hlt hk)
    rw [hnone, hnone]

/-- Rankings are those of rows exactly if each is that of its source. -/
theorem eq_ofRows_iff {c : Rankings} {rows : List SourcedHit} :
    c = Rankings.ofRows rows ↔ ∀ source, IsRankingOf source rows (c.of source) := by
  constructor
  · rintro rfl source
    cases source <;> exact isRankingOf_hitsOf _ rows
  · intro h
    have hsource : ∀ source, c.of source = hitsOf source rows := fun source =>
      (isRankingOf_hitsOf source rows).unique (h source) fun _ => rfl
    unfold Rankings.ofRows
    rw [← hsource .keyword, ← hsource .semantic]
    rfl

/-- Rows that agree on the order of those in each place have the same rankings. -/
theorem ofRows_eq_of_ties (hties : ∀ place, rows'.filter (·.place = place) =
    rows.filter (·.place = place)) : Rankings.ofRows rows' = Rankings.ofRows rows := by
  have hsource : ∀ source, hitsOf source rows' = hitsOf source rows := fun source =>
    (isRankingOf_hitsOf source rows).unique (isRankingOf_hitsOf source rows')
      fun rank => hties (source, rank)
  unfold Rankings.ofRows
  rw [hsource .keyword, hsource .semantic]

/-! ## Rows as they arrive -/

/-- The place of a row that can be read. -/
def placeOf? (row : Json) : Option (Source × UInt32) :=
  (SourcedHit.ofJson? row).map SourcedHit.place

/-- Two answers have the same rows, and those in one place in the same order. -/
structure Reordered (rows rows' : List Json) : Prop where
  perm : rows'.Perm rows
  ties : ∀ place, rows'.filter (placeOf? · = some place) = rows.filter (placeOf? · = some place)

section
variable {rows rows' : List Json}

/-- The same rows, with those of each source in the same order: whatever the sources are interleaved
to. -/
theorem Reordered.of_interleaved (hperm : rows'.Perm rows)
    (hsources : ∀ source, rows'.filter (fun row => (placeOf? row).map Prod.fst = some source) =
      rows.filter (fun row => (placeOf? row).map Prod.fst = some source)) :
    Reordered rows rows' := by
  refine ⟨hperm, fun place => ?_⟩
  have hplace : ∀ rows : List Json, rows.filter (placeOf? · = some place) =
      (rows.filter (fun row => (placeOf? row).map Prod.fst = some place.1)).filter
        (placeOf? · = some place) := by
    intro rows
    rw [List.filter_filter]
    refine List.filter_congr fun row _ => ?_
    rw [Bool.eq_iff_iff, Bool.and_eq_true, decide_eq_true_iff, decide_eq_true_iff]
    constructor
    · intro hrow
      exact ⟨hrow, by rw [hrow]; rfl⟩
    · exact And.left
  rw [hplace, hplace rows, hsources]

/-- The same rows, in any order, where no two of one source have one rank. -/
theorem Reordered.of_distinct (hperm : rows'.Perm rows)
    (hplaces : (rows.filterMap placeOf?).Nodup) : Reordered rows rows' := by
  refine ⟨hperm, fun place => ?_⟩
  have hties := hperm.filter (placeOf? · = some place)
  have hone : (rows.filter (placeOf? · = some place)).length ≤ 1 := by
    have hplace : rows.filter (placeOf? · == some place) =
        rows.filter (placeOf? · = some place) := by
      refine List.filter_congr fun row _ => ?_
      rw [Bool.eq_iff_iff, beq_iff_eq, decide_eq_true_iff]
    have hcount := List.nodup_iff_count_le_one.1 hplaces place
    rwa [List.count_filterMap, List.countP_eq_length_filter, hplace] at hcount
  generalize rows.filter (placeOf? · = some place) = tied at hties hone
  match tied with
  | [] => exact hties.eq_nil
  | [row] => exact hties.eq_singleton

/-- A list is decoded exactly if each of its items is; then it is all that can be read. -/
theorem mapM_eq_some_iff_filterMap {α β : Type} {f : α → Option β} {xs : List α} {ys : List β} :
    xs.mapM f = some ys ↔ (∀ x ∈ xs, (f x).isSome = true) ∧ xs.filterMap f = ys := by
  induction xs generalizing ys with
  | nil => simp
  | cons x xs ih =>
    cases hx : f x with
    | none => simp [hx]
    | some y =>
      simp only [List.mapM_cons, hx, Option.bind_eq_bind, Option.bind_some, Option.bind_eq_some_iff,
        ih, List.forall_mem_cons, Option.isSome_some, true_and, List.filterMap_cons_some hx]
      constructor
      · rintro ⟨ys, ⟨hall, rfl⟩, h⟩
        cases h
        exact ⟨hall, rfl⟩
      · rintro ⟨hall, rfl⟩
        exact ⟨_, ⟨hall, rfl⟩, rfl⟩

/-- The rows in a place, read. -/
theorem filter_place_filterMap (place : Source × UInt32) (rows : List Json) :
    (rows.filterMap SourcedHit.ofJson?).filter (·.place = place) =
      (rows.filter (placeOf? · = some place)).filterMap SourcedHit.ofJson? := by
  rw [List.filter_filterMap, List.filterMap_filter]
  refine List.filterMap_congr fun row _ => ?_
  unfold placeOf?
  cases SourcedHit.ofJson? row with
  | none => simp
  | some hit => by_cases h : hit.place = place <;> simp [h]

/-- Two answers with the same rows, those in one place in the same order, come to the same rankings,
or to none. -/
theorem Reordered.rankings_eq (h : Reordered rows rows') :
    (rows'.mapM SourcedHit.ofJson?).map Rankings.ofRows =
      (rows.mapM SourcedHit.ofJson?).map Rankings.ofRows := by
  have hread : (∀ row ∈ rows', (SourcedHit.ofJson? row).isSome = true) ↔
      ∀ row ∈ rows, (SourcedHit.ofJson? row).isSome = true :=
    forall_congr' fun row => by rw [h.perm.mem_iff]
  cases hhits : rows.mapM SourcedHit.ofJson? with
  | none =>
    cases hhits' : rows'.mapM SourcedHit.ofJson? with
    | none => rfl
    | some hits' =>
      have hall := hread.1 (mapM_eq_some_iff_filterMap.1 hhits').1
      rw [mapM_eq_some_iff_filterMap.2 ⟨hall, rfl⟩] at hhits
      cases hhits
  | some hits =>
    obtain ⟨hall, rfl⟩ := mapM_eq_some_iff_filterMap.1 hhits
    rw [mapM_eq_some_iff_filterMap.2 ⟨hread.2 hall, rfl⟩, Option.map_some, Option.map_some]
    refine congrArg some (ofRows_eq_of_ties fun place => ?_)
    rw [filter_place_filterMap, filter_place_filterMap, h.ties]

end

end SearchGateway
