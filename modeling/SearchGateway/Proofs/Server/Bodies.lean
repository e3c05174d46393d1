import SearchGateway.Proofs.Filter.Placement
import SearchGateway.Proofs.Json.Records
import SearchGateway.Proofs.Server.Responses

/-!
# Bodies that spell one filter

A list of members can be written in either notation and in either of two fields of a body. That the
text of a body spells a list is said of its columns and of the texts in them (`SpellsIn`), which are
cut out of the body without reading it: so the other columns may hold anything, and the list may be
nested as deep as both notations allow (`ListText`). The bodies are then read alike
(`read_respelled`): what is read under a key depends on the columns with that key alone, and under
the keys of the filters something is read in every spelling (`SpellsIn.exists_held?`). A body that
has been read spells the list in its turn (`RequestBody.Spells`).
-/

namespace SearchGateway.Server

open SearchGateway.Filter (Notates)
open SearchGateway.Json (depthLimit members? nesting textsAt value? held?)

/-! ## Bodies that have been read -/

namespace RequestBody

/-- A body without its filters. -/
def withoutFilters (b : RequestBody) : RequestBody :=
  { b with metadataFilter := none, filter := none }

/-- A body spells a list of members, in either notation: in `metadata_filter`, with nothing set in
`filter` beside it, or in `filter`, with anything in `metadata_filter` beside it. -/
inductive Spells (members : List Json) (b : RequestBody) : Prop where
  | metadata {root : Path} {v : Json} (h : Notates members root v)
      (hunset : ∀ w, b.filter = some w → w.isSet = false) (hmetadata : b.metadataFilter = some v)
  | own {root : Path} {v : Json} (h : Notates members root v) (hown : b.filter = some v)

/-- The request of a body that spells a list has the list for its filter. -/
theorem Spells.exists_notates {members : List Json} {b : RequestBody} (h : b.Spells members) :
    ∃ root, Notates members root b.toRequest.filter := by
  cases h with
  | metadata h hunset hmetadata =>
    rw [(Counts.metadata hunset hmetadata).filter_eq]
    exact ⟨_, h⟩
  | own h hown =>
    rw [(Counts.own hown h.isSet_eq_true).filter_eq]
    exact ⟨_, h⟩

/-- Bodies that are alike but for their filters make requests that are. -/
theorem toRequest_of_withoutFilters {b b' : RequestBody}
    (h : b'.withoutFilters = b.withoutFilters) :
    b'.toRequest = { b.toRequest with filter := b'.toRequest.filter } := by
  simp only [withoutFilters, RequestBody.mk.injEq] at h
  obtain ⟨hquery, -, -, hcount, hfull, hsemantic, hrrfK, hmethod⟩ := h
  simp only [toRequest, hquery, hcount, hfull, hsemantic, hrrfK, hmethod]

end RequestBody

/-! ## Texts of bodies -/

/-- The columns of the text of a body, with the texts of their values. -/
def bodyColumns? (text : Bytes) : Option (List (String × Bytes)) :=
  Json.columns? (bodyFields.map Prod.fst) text

/-- A text writes a list of members down. No more containers are nested in it than a body allows in
the older notation, with the body itself and both objects of the notation around it. -/
structure ListText (members : List Json) (text : Bytes) : Prop where
  read : Json.read? .any text = some (.array members)
  nesting : nesting text + 3 < depthLimit

/-- A text writes a filter with a list of members down, in either notation. -/
inductive FilterText (members : List Json) (text : Bytes) : Prop where
  | current {list : Bytes} (h : members? text = some [("filters", list)])
      (hlist : ListText members list)
  | older {inner list : Bytes} (h : members? text = some [("filter", inner)])
      (hinner : members? inner = some [("filters", list)]) (hlist : ListText members list)

/-- Under a key there is nothing, or the text of one value of which something holds. -/
inductive Beside (columns : List (String × Bytes)) (key : String) (p : Bytes → Json → Prop) :
    Prop where
  | absent (h : textsAt key columns = [])
  | present {text : Bytes} {v : Json} (h : textsAt key columns = [text])
      (hread : Json.read? .any text = some v) (hv : p text v)

/-- The columns of a body spell a list of members, in either notation: in `metadata_filter`, with
nothing set in `filter` beside it, or in `filter`, with any value in `metadata_filter` beside it. -/
inductive SpellsIn (members : List Json) (columns : List (String × Bytes)) : Prop where
  | metadata {text : Bytes} (h : FilterText members text)
      (hmetadata : textsAt "metadata_filter" columns = [text])
      (hown : Beside columns "filter" fun _ v => v.isSet = false)
  | own {text : Bytes} (h : FilterText members text) (hown : textsAt "filter" columns = [text])
      (hmetadata : Beside columns "metadata_filter" fun text _ => nesting text + 1 < depthLimit)

/-- The keys under which a body may hold a filter. -/
def filterKeys : List String := ["metadata_filter", "filter"]

/-- The columns of a body that hold no filter. -/
def otherColumns (columns : List (String × Bytes)) : List (String × Bytes) :=
  columns.filter fun column => !filterKeys.contains column.1

/-- The text of an object whose only member holds a value holds the object with the value. -/
theorem value?_of_only_member {n : Nat} {key : String} {text inner : Bytes} {v : Json}
    (h : members? text = some [(key, inner)]) (hinner : value? n inner = some v) :
    value? (n + 1) text = some (.object [(key, v)]) := by
  have hvalue : value? (n + 1) text = some (Json.ofEntries [(key, v)]) :=
    Json.value?_of_members? h (.cons ⟨rfl, hinner⟩ .nil)
  rw [hvalue]
  simp [Json.ofEntries, Json.lastOfEach]

variable {members : List Json} {text : Bytes} {columns columns' : List (String × Bytes)}

/-- The text of a list holds the list within the three containers that it may lie in. -/
theorem ListText.value?_eq (h : ListText members text) {n : Nat} (hn : depthLimit ≤ n + 4) :
    value? n text = some (.array members) := by
  have hnesting := h.nesting
  exact Json.value?_of_nesting_le (Json.value?_of_read? h.read) (by omega)

/-- The text of a filter holds the filter within a body. -/
theorem FilterText.exists_value? (h : FilterText members text) :
    ∃ root v, Notates members root v ∧ value? (depthLimit - 2) text = some v := by
  cases h with
  | current h hlist =>
    exact ⟨_, _, .current,
      value?_of_only_member h (hlist.value?_eq (n := depthLimit - 3) (by decide))⟩
  | older h hinner hlist =>
    exact ⟨_, _, .older, value?_of_only_member h
      (value?_of_only_member hinner (hlist.value?_eq (n := depthLimit - 4) (by decide)))⟩

/-- A value that is not set is held wherever it is read. -/
theorem value?_of_isSet_eq_false {v : Json} (h : Json.read? .any text = some v)
    (hv : v.isSet = false) (n : Nat) : value? n text = some v := by
  obtain ⟨blanks, hread, hblanks⟩ := Json.value?_eq_some_iff.1 (Json.value?_of_read? h)
  have hscalar : v.isScalar = true := by cases v <;> first | rfl | cases hv
  obtain ⟨b, tail, hb, hread⟩ := (Json.reads_scalar_iff hscalar).1 hread
  exact Json.value?_eq_some_iff.2 ⟨blanks, .scalar hb hread, hblanks⟩

/-- A body takes under a key the value of its only column. -/
theorem held?_singleton {v : Json} (h : value? (depthLimit - 2) text = some v) :
    held? (depthLimit - 2) (.optional .any) none [text] = some (some v) := by
  have hcolumn : Json.column? (depthLimit - 2) (.optional .any) text = some v :=
    Option.filter_eq_some_iff.2 ⟨h, by simp [Shape.admits]⟩
  rw [held?, hcolumn]
  rfl

/-- A value that is beside a filter and can be read within the body is what the body takes. -/
theorem Beside.held?_eq {key : String} {p : Bytes → Json → Prop} (h : Beside columns key p)
    (hp : ∀ text v, Json.read? .any text = some v → p text v →
      value? (depthLimit - 2) text = some v) :
    held? (depthLimit - 2) (.optional .any) none (textsAt key columns) = some none ∨
      ∃ text v, p text v ∧
        held? (depthLimit - 2) (.optional .any) none (textsAt key columns) = some (some v) := by
  cases h with
  | absent h => exact .inl (by rw [h, held?])
  | present h hread hv => exact .inr ⟨_, _, hv, by rw [h, held?_singleton (hp _ _ hread hv)]⟩

/-- What a body takes under the keys of its filters spells the list that its columns spell. -/
theorem SpellsIn.exists_held? (h : SpellsIn members columns) :
    ∃ metadata? own?,
      held? (depthLimit - 2) (.optional .any) none (textsAt "metadata_filter" columns) =
        some metadata? ∧
      held? (depthLimit - 2) (.optional .any) none (textsAt "filter" columns) = some own? ∧
      ∀ column : String → Option Json, column "metadata_filter" = metadata? →
        column "filter" = own? → (RequestBody.ofColumns column).Spells members := by
  have hpresent : ∀ {root v} {column : String → Option Json} {key}, Notates members root v →
      column key = some v → RequestBody.present? column key = some v := by
    rintro root v column key hv hkey
    rw [RequestBody.present?, hkey]
    cases hv <;> rfl
  cases h with
  | metadata h hmetadata hown =>
    obtain ⟨root, v, hv, hvalue⟩ := h.exists_value?
    have hheld := held?_singleton hvalue
    rw [← hmetadata] at hheld
    rcases hown.held?_eq fun text w hread hw => value?_of_isSet_eq_false hread hw _ with
      hown | ⟨_, w, hw, hown⟩
    · refine ⟨some v, none, hheld, hown, fun column hkey hnone => ?_⟩
      refine .metadata hv (fun w hw => ?_) (hpresent hv hkey)
      simp [RequestBody.ofColumns, RequestBody.present?, hnone] at hw
    · refine ⟨some v, some w, hheld, hown, fun column hkey hsome => ?_⟩
      refine .metadata hv (fun w' hw' => ?_) (hpresent hv hkey)
      simp only [RequestBody.ofColumns, RequestBody.present?, hsome, Option.filter_eq_some_iff,
        Option.some.injEq] at hw'
      rw [← hw'.1]
      exact hw
  | own h hown hmetadata =>
    obtain ⟨root, v, hv, hvalue⟩ := h.exists_value?
    have hheld := held?_singleton hvalue
    rw [← hown] at hheld
    rcases hmetadata.held?_eq fun text w hread hnesting =>
        Json.value?_of_nesting_le (Json.value?_of_read? hread) (by omega) with
      hmetadata | ⟨_, w, -, hmetadata⟩
    · exact ⟨none, some v, hmetadata, hheld, fun column _ hkey => .own hv (hpresent hv hkey)⟩
    · exact ⟨some w, some v, hmetadata, hheld, fun column _ hkey => .own hv (hpresent hv hkey)⟩

/-- Every field of a body is a column. -/
theorem isColumn_of_mem_bodyFields : ∀ field ∈ bodyFields, field.2.IsColumn := by
  simp [bodyFields, Shape.IsColumn, Shape.isPlain]

/-- A body is made of what it takes of its columns. -/
theorem read_of_bodyColumns? (h : bodyColumns? text = some columns) :
    (RequestBody.read text).toOption =
      (Json.gather? (depthLimit - 2) bodyFields [] columns).map fun entries =>
        .ofColumns fun key => entries.lookup key := by
  have hread : (RequestBody.read text).toOption =
      ((Json.read bodyShape text).toOption.map fun v =>
        (v.row? (bodyFields.map Prod.fst) bodyFields.length).getD fun _ => none).map
          .ofColumns := by
    rw [RequestBody.read]
    cases Json.read bodyShape text <;> rfl
  rw [hread, bodyShape]
  have hrecord := Json.read_record "struct SearchBody" isColumn_of_mem_bodyFields (by decide) h
  rw [show bodyFields.length = 8 from rfl] at hrecord ⊢
  rw [hrecord, Option.map_map]
  rfl

/-- Columns that hold no filter are found among those that hold none. -/
theorem textsAt_otherColumns {key : String} (hkey : key ∉ filterKeys) :
    textsAt key (otherColumns columns) = textsAt key columns := by
  rw [textsAt, otherColumns, List.filter_filter, textsAt]
  congr 1
  refine List.filter_congr fun column _ => ?_
  cases hcolumn : column.1 == key with
  | false => rfl
  | true =>
    obtain rfl := eq_of_beq hcolumn
    simpa using hkey

/-- What can be read beside one spelling of a list can be read beside another, and is the same. -/
theorem exists_gather?_of_spellsIn {entries : List (String × Json)}
    (h' : SpellsIn members columns') (hrest : otherColumns columns' = otherColumns columns)
    (hentries : Json.gather? (depthLimit - 2) bodyFields [] columns = some entries) :
    ∃ entries', Json.gather? (depthLimit - 2) bodyFields [] columns' = some entries' ∧
      ∀ key ∈ bodyFields.map Prod.fst, key ∉ filterKeys →
        entries'.lookup key = entries.lookup key := by
  obtain ⟨metadata?, own?, hmetadata, hown, -⟩ := h'.exists_held?
  have hother : ∀ {key}, key ∉ filterKeys → textsAt key columns' = textsAt key columns := by
    intro key hkey
    rw [← textsAt_otherColumns hkey, hrest, textsAt_otherColumns hkey]
  obtain ⟨entries', hentries'⟩ : ∃ entries',
      Json.gather? (depthLimit - 2) bodyFields [] columns' = some entries' := by
    refine Json.exists_gather? fun key shape hshape => ?_
    by_cases hkey : key ∈ filterKeys
    · simp only [filterKeys, List.mem_cons, List.not_mem_nil, or_false] at hkey
      rcases hkey with rfl | rfl
      · cases hshape
        exact Option.isSome_iff_exists.2 ⟨_, hmetadata⟩
      · cases hshape
        exact Option.isSome_iff_exists.2 ⟨_, hown⟩
    · rw [hother hkey, Json.held?_of_gather? hentries hshape]
      rfl
  refine ⟨entries', hentries', fun key hknown hkey => ?_⟩
  obtain ⟨⟨_, shape⟩, hfield, rfl⟩ := List.mem_map.1 hknown
  have hshape := (Json.lookup_eq_some_iff_mem (by decide)).2 hfield
  have hheld' := Json.held?_of_gather? hentries' hshape
  rw [hother hkey, Json.held?_of_gather? hentries hshape] at hheld'
  exact (Option.some.inj hheld').symm

/-- What a body takes of columns that spell a list makes a body that spells the list. -/
theorem SpellsIn.spells {entries : List (String × Json)} (h : SpellsIn members columns)
    (hentries : Json.gather? (depthLimit - 2) bodyFields [] columns = some entries) :
    (RequestBody.ofColumns fun key => entries.lookup key).Spells members := by
  obtain ⟨metadata?, own?, hmetadata, hown, hspells⟩ := h.exists_held?
  have hshape : ∀ key ∈ filterKeys, bodyFields.lookup key = some (.optional .any) := by
    simp only [filterKeys, List.forall_mem_cons]
    exact ⟨rfl, rfl, nofun⟩
  have hheld := Json.held?_of_gather? hentries (hshape "metadata_filter" (by decide))
  have hheld' := Json.held?_of_gather? hentries (hshape "filter" (by decide))
  exact hspells _ (Option.some.inj (hheld.symm.trans hmetadata))
    (Option.some.inj (hheld'.symm.trans hown))

/-- Two bodies whose columns spell one list of members, and are alike in all else, are read alike:
neither can be read, or both can, and then they spell the list and are alike in all else. -/
theorem read_respelled {text' : Bytes} (hcolumns : bodyColumns? text = some columns)
    (hcolumns' : bodyColumns? text' = some columns') (h : SpellsIn members columns)
    (h' : SpellsIn members columns') (hrest : otherColumns columns' = otherColumns columns) :
    (∃ b b', RequestBody.read text = .ok b ∧ RequestBody.read text' = .ok b' ∧ b.Spells members ∧
      b'.Spells members ∧ b'.withoutFilters = b.withoutFilters) ∨
    ∃ f f', RequestBody.read text = .error f ∧ RequestBody.read text' = .error f' := by
  have hread := read_of_bodyColumns? hcolumns
  have hread' := read_of_bodyColumns? hcolumns'
  cases hentries : Json.gather? (depthLimit - 2) bodyFields [] columns with
  | some entries =>
    obtain ⟨entries', hentries', hsame⟩ := exists_gather?_of_spellsIn h' hrest hentries
    rw [hentries, Option.map_some] at hread
    rw [hentries', Option.map_some] at hread'
    refine .inl ⟨_, _, toOption_eq_some_iff.1 hread, toOption_eq_some_iff.1 hread',
      h.spells hentries, h'.spells hentries', ?_⟩
    have hsame : ∀ key ∈ ["query", "match_count", "full_text_weight", "semantic_weight", "rrf_k",
        "distance_method"], entries'.lookup key = entries.lookup key :=
      fun key hkey => hsame key (by revert key; decide) (by revert key; decide)
    simp only [List.forall_mem_cons] at hsame
    obtain ⟨hquery, hcount, hfull, hsemantic, hrrfK, hmethod, -⟩ := hsame
    simp only [RequestBody.withoutFilters, RequestBody.ofColumns, hquery, hcount, hfull, hsemantic,
      hrrfK, hmethod]
  | none =>
    have hentries' : Json.gather? (depthLimit - 2) bodyFields [] columns' = none := by
      by_contra hne
      obtain ⟨entries', hentries'⟩ := Option.ne_none_iff_exists'.1 hne
      obtain ⟨entries, h, -⟩ := exists_gather?_of_spellsIn h hrest.symm hentries'
      cases hentries.symm.trans h
    rw [hentries, Option.map_none, toOption_eq_none_iff] at hread
    rw [hentries', Option.map_none, toOption_eq_none_iff] at hread'
    obtain ⟨f, hread⟩ := hread
    obtain ⟨f', hread'⟩ := hread'
    exact .inr ⟨f, f', hread, hread'⟩

end SearchGateway.Server
