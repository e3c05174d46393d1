import Mathlib.Data.List.MinMax
import Mathlib.Data.List.Nodup
import SearchGateway.Ranking.Fusion

/-!
# What merging gathers

`merge` goes through the hits of both sources once, and looks for the entry of each hit's document
among those it has. `merge_eq` says what it arrives at without going through anything: one entry for
each identifier, in order of first occurrence (`distinctIds`), with the document of that occurrence
(`firstDocument?`) and the best hit of each source (`bestHit?`).

The invariant is `Gathered`: the entries after some hits are what those hits say. One hit keeps it
(`Gathered.insert`), and so a list of hits does (`Gathered.foldl_insert`).
-/

namespace SearchGateway

/-! ## What hits say of a document -/

/-- The identifiers of the documents hit, each once, in order of first occurrence. -/
def distinctIds (hits : List Hit) : List DocumentId := (hits.map (·.document.id)).eraseDups

/-- The document of the first hit with an identifier. -/
def firstDocument? (hits : List Hit) (id : DocumentId) : Option Document :=
  (hits.find? (·.document.id = id)).map (·.document)

/-- The earliest hit of least rank among those with an identifier. -/
def bestHit? (hits : List Hit) (id : DocumentId) : Option Hit :=
  (hits.filter (·.document.id = id)).argmin (·.rank.toNat)

/-- The place of a hit. -/
def Hit.standing (h : Hit) : Standing := ⟨h.rank, h.score⟩

variable {hits : List Hit} {h : Hit} {id : DocumentId}

/-- The identifiers are those of the hits. -/
theorem mem_distinctIds : id ∈ distinctIds hits ↔ ∃ h ∈ hits, h.document.id = id := by
  rw [distinctIds, List.mem_eraseDups, List.mem_map]

/-- A further hit of a document that has been hit adds no identifier. -/
theorem distinctIds_concat_of_mem (hold : h.document.id ∈ distinctIds hits) :
    distinctIds (hits ++ [h]) = distinctIds hits := by
  have hids : (hits ++ [h]).map (·.document.id) = hits.map (·.document.id) ++ [h.document.id] :=
    List.map_append
  unfold distinctIds at hold ⊢
  rw [List.mem_eraseDups] at hold
  rw [hids, List.eraseDups_append, List.removeAll, List.filter_cons_of_neg (by simpa using hold),
    List.filter_nil, List.eraseDups_nil, List.append_nil]

/-- The first hit of a document adds its identifier at the end. -/
theorem distinctIds_concat_of_not_mem (hnew : h.document.id ∉ distinctIds hits) :
    distinctIds (hits ++ [h]) = distinctIds hits ++ [h.document.id] := by
  have hids : (hits ++ [h]).map (·.document.id) = hits.map (·.document.id) ++ [h.document.id] :=
    List.map_append
  unfold distinctIds at hnew ⊢
  rw [List.mem_eraseDups] at hnew
  rw [hids, List.eraseDups_append, List.removeAll, List.filter_cons_of_pos (by simpa using hnew)]
  rfl

/-- No identifier is there twice. -/
theorem nodup_distinctIds (hits : List Hit) : (distinctIds hits).Nodup := by
  induction hits using List.reverseRecOn with
  | nil => exact List.nodup_nil
  | append_singleton hits h ih =>
    by_cases hold : h.document.id ∈ distinctIds hits
    · rw [distinctIds_concat_of_mem hold]
      exact ih
    · rw [distinctIds_concat_of_not_mem hold, ← List.concat_eq_append]
      exact ih.concat hold

/-- An integer and a text of one spelling are two identifiers. -/
example :
    distinctIds [⟨⟨.int 7, none, .null, none⟩, 1, none⟩, ⟨⟨.text "7", none, .null, none⟩, 1, none⟩,
      ⟨⟨.int 7, none, .null, none⟩, 2, none⟩] = [.int 7, .text "7"] := by decide

/-- A further hit says nothing of a document that has been hit. -/
theorem firstDocument?_concat (hits : List Hit) (h : Hit) (id : DocumentId) :
    firstDocument? (hits ++ [h]) id =
      (firstDocument? hits id).or (if h.document.id = id then some h.document else none) := by
  unfold firstDocument?
  rw [List.find?_append, Option.map_or, List.find?_singleton]
  split <;> simp_all

/-- A document has a first occurrence where its identifier is among the hits. -/
theorem firstDocument?_eq_none : firstDocument? hits id = none ↔ id ∉ distinctIds hits := by
  simp [firstDocument?, mem_distinctIds]

/-- Where no hit has an identifier, none is the best. -/
theorem bestHit?_eq_none : bestHit? hits id = none ↔ id ∉ distinctIds hits := by
  simp [bestHit?, mem_distinctIds]

/-- The best hit of a document is one of its hits. -/
theorem mem_of_bestHit? (hbest : bestHit? hits id = some h) : h ∈ hits ∧ h.document.id = id := by
  have hmem : h ∈ hits.filter (·.document.id = id) := List.argmin_mem hbest
  obtain ⟨hmem, hid⟩ := List.mem_filter.1 hmem
  exact ⟨hmem, of_decide_eq_true hid⟩

/-- No hit of a document has a rank below that of its best one. -/
theorem rank_le_of_bestHit? {best : Hit} (hbest : bestHit? hits h.document.id = some best)
    (hmem : h ∈ hits) : best.rank.toNat ≤ h.rank.toNat := by
  have hfilter : h ∈ hits.filter (·.document.id = h.document.id) := by simpa using hmem
  exact List.le_of_mem_argmin (f := fun g : Hit => g.rank.toNat) hfilter hbest

/-- A further hit of a document is the best one if no earlier one is as good. -/
theorem bestHit?_concat_self (hits : List Hit) (h : Hit) :
    (bestHit? (hits ++ [h]) h.document.id).map Hit.standing =
      some (Merged.better ((bestHit? hits h.document.id).map Hit.standing) h.standing) := by
  unfold bestHit?
  rw [List.filter_append, List.filter_cons_of_pos (by simp), List.filter_nil, List.argmin_concat]
  cases (hits.filter (·.document.id = h.document.id)).argmin (·.rank.toNat) with
  | none => rfl
  | some best =>
    simp only [Option.map_some, Merged.better, Hit.standing, UInt32.lt_iff_toNat_lt]
    split <;> rfl

/-- A hit of one document says nothing of another. -/
theorem bestHit?_concat_of_ne (hne : h.document.id ≠ id) :
    bestHit? (hits ++ [h]) id = bestHit? hits id := by
  unfold bestHit?
  rw [List.filter_append, List.filter_cons_of_neg (by simpa using hne), List.filter_nil,
    List.append_nil]

/-! ## Adding one hit -/

namespace Merged

variable {source : Source} {entries : List Merged} {m : Merged}

/-- Adding a hit leaves the document. -/
@[simp]
theorem document_add (m : Merged) (source : Source) (h : Hit) :
    (m.add source h).document = m.document := by
  cases source <;> rfl

/-- A hit of a document that has an entry adds no entry. -/
theorem ids_insert_of_mem (hold : h.document.id ∈ entries.map (·.document.id)) :
    (insert source entries h).map (·.document.id) = entries.map (·.document.id) := by
  induction entries with
  | nil => cases hold
  | cons e rest ih =>
    unfold insert
    split
    · simp
    · next hne =>
      rw [List.map_cons, List.mem_cons] at hold
      rw [List.map_cons, List.map_cons, ih (hold.resolve_left (Ne.symm hne))]

/-- The first hit of a document adds an entry at the end. -/
theorem ids_insert_of_not_mem (hnew : h.document.id ∉ entries.map (·.document.id)) :
    (insert source entries h).map (·.document.id) =
      entries.map (·.document.id) ++ [h.document.id] := by
  induction entries with
  | nil => simp [insert, unranked]
  | cons e rest ih =>
    rw [List.map_cons, List.mem_cons, not_or] at hnew
    rw [insert, if_neg (Ne.symm hnew.1), List.map_cons, ih hnew.2]
    rfl

/-- An entry after a hit was there and is of another document, or is the entry of the hit's document
with the hit added, or is new. -/
theorem mem_insert (hids : (entries.map (·.document.id)).Nodup)
    (hm : m ∈ insert source entries h) :
    (m ∈ entries ∧ m.document.id ≠ h.document.id) ∨
      (∃ old ∈ entries, old.document.id = h.document.id ∧ m = old.add source h) ∨
      (h.document.id ∉ entries.map (·.document.id) ∧
        m = (unranked h.document).add source h) := by
  induction entries with
  | nil =>
    rw [insert, List.mem_singleton] at hm
    exact .inr (.inr ⟨List.not_mem_nil, hm⟩)
  | cons e rest ih =>
    rw [List.map_cons, List.nodup_cons] at hids
    unfold insert at hm
    split at hm
    · next heq =>
      rcases List.mem_cons.1 hm with rfl | hm
      · exact .inr (.inl ⟨e, List.mem_cons_self, heq, rfl⟩)
      · have hother : m.document.id ≠ h.document.id := by
          intro hid
          have hmem : m.document.id ∈ rest.map (·.document.id) := List.mem_map_of_mem hm
          rw [hid, ← heq] at hmem
          exact hids.1 hmem
        exact .inl ⟨List.mem_cons_of_mem e hm, hother⟩
    · next hne =>
      rcases List.mem_cons.1 hm with rfl | hm
      · exact .inl ⟨List.mem_cons_self, hne⟩
      · rcases ih hids.2 hm with ⟨hold, hother⟩ | ⟨old, hold, heq, hadd⟩ | ⟨hnew, hadd⟩
        · exact .inl ⟨List.mem_cons_of_mem e hold, hother⟩
        · exact .inr (.inl ⟨old, List.mem_cons_of_mem e hold, heq, hadd⟩)
        · have hnew' : h.document.id ∉ (e :: rest).map (·.document.id) := by
            rw [List.map_cons, List.mem_cons]
            rintro (heq | hmem)
            · exact hne heq.symm
            · exact hnew hmem
          exact .inr (.inr ⟨hnew', hadd⟩)

end Merged

/-! ## Merging -/

/-- Rankings with further hits of one source. -/
def Rankings.extend (r : Rankings) : Source → List Hit → Rankings
  | .keyword, further => { r with keyword := r.keyword ++ further }
  | .semantic, further => { r with semantic := r.semantic ++ further }

/-- The entry of a document, by what the hits of both sources say of it. -/
def entryOf? (hits : List Hit) (r : Rankings) (id : DocumentId) : Option Merged :=
  (firstDocument? hits id).map fun d =>
    ⟨d, (bestHit? r.keyword id).map Hit.standing, (bestHit? r.semantic id).map Hit.standing⟩

/-- Entries are what the given hits, in the order in which they came, and their two rankings say of
the documents hit. -/
structure Gathered (hits : List Hit) (r : Rankings) (entries : List Merged) : Prop where
  covers : ∀ h ∈ r.keyword ++ r.semantic, h ∈ hits
  ids : entries.map (·.document.id) = distinctIds hits
  entry : ∀ m ∈ entries, entryOf? hits r m.document.id = some m

variable {source : Source} {r : Rankings} {entries : List Merged}

/-- A hit of another document leaves an entry. -/
theorem entryOf?_extend_of_ne (hne : h.document.id ≠ id) :
    entryOf? (hits ++ [h]) (r.extend source [h]) id = entryOf? hits r id := by
  have hfirst : firstDocument? (hits ++ [h]) id = firstDocument? hits id := by
    rw [firstDocument?_concat, if_neg hne, Option.or_none]
  unfold entryOf?
  rw [hfirst]
  cases source <;> simp only [Rankings.extend, bestHit?_concat_of_ne hne]

/-- A further hit of a document is added to its entry. -/
theorem entryOf?_extend_of_some {m : Merged} (hm : entryOf? hits r h.document.id = some m) :
    entryOf? (hits ++ [h]) (r.extend source [h]) h.document.id = some (m.add source h) := by
  obtain ⟨d, hd, rfl⟩ := Option.map_eq_some_iff.1 hm
  unfold entryOf?
  rw [firstDocument?_concat, hd, Option.some_or, Option.map_some]
  cases source <;>
    simp only [Rankings.extend, bestHit?_concat_self, Merged.add, Hit.standing]

/-- The first hit of a document makes its entry. -/
theorem entryOf?_extend_of_new (hcovers : ∀ h ∈ r.keyword ++ r.semantic, h ∈ hits)
    (hnew : h.document.id ∉ distinctIds hits) :
    entryOf? (hits ++ [h]) (r.extend source [h]) h.document.id =
      some ((Merged.unranked h.document).add source h) := by
  have hnone : ∀ ranking : List Hit, (∀ h ∈ ranking, h ∈ hits) →
      bestHit? ranking h.document.id = none := by
    intro ranking hsub
    rw [bestHit?_eq_none, mem_distinctIds]
    rintro ⟨g, hg, heq⟩
    exact hnew (mem_distinctIds.2 ⟨g, hsub g hg, heq⟩)
  have hkeyword := hnone r.keyword fun g hg => hcovers g (List.mem_append_left _ hg)
  have hsemantic := hnone r.semantic fun g hg => hcovers g (List.mem_append_right _ hg)
  unfold entryOf?
  rw [firstDocument?_concat, firstDocument?_eq_none.2 hnew, if_pos rfl]
  cases source <;>
    simp only [Rankings.extend, bestHit?_concat_self, hkeyword, hsemantic, Option.none_or,
      Option.map_some, Option.map_none, Merged.add, Merged.unranked, Hit.standing]

/-- Inserting a hit keeps the entries what the hits say. -/
theorem Gathered.insert (g : Gathered hits r entries) (source : Source) (h : Hit) :
    Gathered (hits ++ [h]) (r.extend source [h]) (Merged.insert source entries h) where
  covers := by
    intro f hf
    have hsplit : f ∈ r.keyword ++ r.semantic ∨ f = h := by
      cases source <;> simp only [Rankings.extend, List.mem_append, List.mem_singleton] at hf ⊢ <;>
        tauto
    rcases hsplit with hold | rfl
    · exact List.mem_append_left _ (g.covers f hold)
    · exact List.mem_append_right _ (List.mem_singleton.2 rfl)
  ids := by
    by_cases hold : h.document.id ∈ distinctIds hits
    · rw [distinctIds_concat_of_mem hold, ← g.ids]
      exact Merged.ids_insert_of_mem (g.ids ▸ hold)
    · rw [distinctIds_concat_of_not_mem hold, ← g.ids]
      exact Merged.ids_insert_of_not_mem (g.ids ▸ hold)
  entry := by
    intro m hm
    have hnodup : (entries.map (·.document.id)).Nodup := g.ids ▸ nodup_distinctIds hits
    rcases Merged.mem_insert hnodup hm with ⟨hold, hne⟩ | ⟨old, hold, heq, rfl⟩ | ⟨hnew, rfl⟩
    · rw [entryOf?_extend_of_ne hne.symm]
      exact g.entry m hold
    · have hentry := g.entry old hold
      rw [heq] at hentry
      rw [Merged.document_add, heq]
      exact entryOf?_extend_of_some hentry
    · rw [g.ids] at hnew
      rw [Merged.document_add]
      exact entryOf?_extend_of_new g.covers hnew

/-- Inserting hits one after the other keeps the entries what the hits say. -/
theorem Gathered.foldl_insert (g : Gathered hits r entries) (source : Source)
    (further : List Hit) :
    Gathered (hits ++ further) (r.extend source further)
      (further.foldl (Merged.insert source) entries) := by
  induction further generalizing hits r entries with
  | nil => cases source <;> simpa [Rankings.extend] using g
  | cons h rest ih =>
    have hrest := ih (g.insert source h)
    have hextend : (r.extend source [h]).extend source rest = r.extend source (h :: rest) := by
      cases source <;> simp [Rankings.extend]
    rwa [hextend, List.append_assoc] at hrest

/-- Merging gathers what the hits of both sources say. -/
theorem gathered_merge (keyword semantic : List Hit) :
    Gathered (keyword ++ semantic) ⟨keyword, semantic⟩ (merge keyword semantic) := by
  have hnone : Gathered [] ⟨[], []⟩ [] := ⟨List.forall_mem_nil _, rfl, List.forall_mem_nil _⟩
  exact (hnone.foldl_insert .keyword keyword).foldl_insert .semantic semantic

/-- Merging gives one entry for each document, in order of first occurrence. -/
theorem merge_eq (keyword semantic : List Hit) :
    merge keyword semantic = (distinctIds (keyword ++ semantic)).filterMap
      (entryOf? (keyword ++ semantic) ⟨keyword, semantic⟩) := by
  have g := gathered_merge keyword semantic
  rw [← g.ids, List.filterMap_map]
  symm
  calc (merge keyword semantic).filterMap
        (entryOf? (keyword ++ semantic) ⟨keyword, semantic⟩ ∘ (·.document.id))
      = (merge keyword semantic).filterMap some := List.filterMap_congr fun m hm => g.entry m hm
    _ = merge keyword semantic := List.filterMap_some

end SearchGateway
