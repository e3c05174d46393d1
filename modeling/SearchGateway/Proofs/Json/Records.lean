import SearchGateway.Json.Row
import SearchGateway.Proofs.Json.Kinds

/-!
# Reading the columns of a record

The text of a record, an object or an array, is cut into its columns (`columns?`), and what is read
of it depends on them alone, each column being read on its own (`column?`): the record takes the
entries that `gather?` collects, whichever of both forms it has (`read_record`). Under one key,
these depend on the columns with that key alone (`held?_of_gather?`, `exists_gather?`). So two texts
whose columns agree but for some keys are read alike as far as the other keys go.
-/

namespace SearchGateway.Json

/-! ## Entries -/

section
variable {β : Type} {l l' : List (String × β)} {key : String} {b : β}

/-- Among distinct keys, an entry is found by its key. -/
theorem lookup_eq_some_iff_mem (hnodup : (l.map Prod.fst).Nodup) :
    l.lookup key = some b ↔ (key, b) ∈ l := by
  induction l with
  | nil => simp
  | cons e l ih =>
    obtain ⟨k, c⟩ := e
    rw [List.map_cons, List.nodup_cons] at hnodup
    rw [List.lookup_cons, List.mem_cons, Prod.mk.injEq]
    by_cases hk : key = k
    · subst hk
      have hnotMem : (key, b) ∉ l := fun h => hnodup.1 (List.mem_map.2 ⟨_, h, rfl⟩)
      simp [hnotMem, eq_comm]
    · rw [beq_false_of_ne hk]
      simp [hk, ih hnodup.2]

/-- Among distinct keys, the order of the entries does not matter. -/
theorem lookup_eq_of_perm (hperm : l.Perm l') (hnodup : (l.map Prod.fst).Nodup) (key : String) :
    l.lookup key = l'.lookup key := by
  refine Option.ext fun b => ?_
  rw [lookup_eq_some_iff_mem hnodup,
    lookup_eq_some_iff_mem ((hperm.map Prod.fst).nodup_iff.1 hnodup), hperm.mem_iff]

end

/-- Entries with distinct keys are all kept. -/
theorem lastOfEach_eq_self {entries : List (String × Json)}
    (hnodup : (entries.map Prod.fst).Nodup) : lastOfEach entries = entries := by
  fun_induction lastOfEach entries with
  | case1 | case2 => rfl
  | case3 e e' rest heq => simp [heq] at hnodup
  | case4 e e' rest hne ih => rw [ih (List.nodup_cons.1 hnodup).2]

/-- The object of entries with distinct keys has the entries for its fields. -/
theorem get?_ofEntries {entries : List (String × Json)} (hnodup : (entries.map Prod.fst).Nodup)
    (key : String) : (ofEntries entries).get? key = entries.lookup key := by
  have hperm := List.mergeSort_perm entries fun a b => decide (a.1 ≤ b.1)
  rw [ofEntries, lastOfEach_eq_self ((hperm.map Prod.fst).nodup_iff.2 hnodup)]
  exact (lookup_eq_of_perm hperm.symm hnodup key).symm

/-! ## Columns -/

variable {t r v : Bytes} {n m : Nat} {first : Bool} {shape : Shape} {items : List Bytes}
  {fields : List (String × Shape)} {label : String} {columns : List (String × Bytes)}
  {atLeast : Nat}

/-- The value of a column, if its text holds a value of the shape. -/
def column? (n : Nat) (shape : Shape) (text : Bytes) : Option Json :=
  (value? n text).filter shape.admits

/-- The entries that a record takes from members: those of the fields that it knows, each once. -/
def gather? (n : Nat) (fields : List (String × Shape)) :
    (seen : List (String × Json)) → List (String × Bytes) → Option (List (String × Json))
  | seen, [] => some seen
  | seen, (key, text) :: members =>
    match fields.lookup key with
    | none => gather? n fields seen members
    | some shape =>
      if (seen.lookup key).isSome then none
      else (column? n shape text).bind fun a => gather? n fields ((key, a) :: seen) members

/-- A column that is cut out is read in its place, or refused there as it is on its own. -/
theorem readShape_cases (hshape : shape.IsColumn) (h : valueText? t = some (v, r))
    (hr : EndsNumber r) (n bound : Nat) (hbound : 2 * t.length + 2 ≤ bound) :
    (∃ a, readShape bound (n + 1) shape t = .ok (a, r) ∧ column? n shape v = some a) ∨
      ∃ f, readShape bound (n + 1) shape t = .error f ∧ column? n shape v = none := by
  obtain ⟨inner, rfl, hinner⟩ := hshape
  have hiff : ∀ a r', readShape bound (n + 1) (.optional inner) t = .ok (a, r') ↔
      r' = r ∧ column? n (.optional inner) v = some a := by
    intro a r'
    rw [readShape_optional hinner hbound, reads_iff_value? h hr, and_assoc, column?,
      Option.filter_eq_some_iff]
  cases hread : readShape bound (n + 1) (.optional inner) t with
  | ok read =>
    obtain ⟨a, r'⟩ := read
    obtain ⟨rfl, ha⟩ := (hiff a r').1 hread
    exact .inl ⟨a, rfl, ha⟩
  | error f =>
    refine .inr ⟨f, rfl, Option.eq_none_iff_forall_ne_some.2 fun a ha => ?_⟩
    cases hread.symm.trans ((hiff a r).2 ⟨rfl, ha⟩)

/-- A record takes its entries from the members of its object. -/
theorem toOption_readFields {bound : Nat} {fields : List (String × Shape)}
    {members : List (String × Bytes)}
    (hfields : ∀ key shape, fields.lookup key = some shape → shape.IsColumn)
    (h : takeMembers m first t = some (members, r)) (hbound : 2 * t.length + 3 ≤ bound)
    (seen : List (String × Json)) :
    (readFields bound (n + 1) fields first seen t).toOption =
      (gather? n fields seen members).map fun entries => (ofEntries entries.reverse, r) := by
  induction m generalizing bound first t members seen with
  | zero => cases h
  | succ m ih =>
    obtain ⟨bound, rfl⟩ : ∃ m, bound = m + 1 := Nat.exists_eq_add_one.2 (by omega)
    rcases takeMembers_cases h with ⟨hnext, rfl⟩ |
      ⟨m', key, text, rest, t₁, t₂, t₃, hm, hnext, hkey, htext, hrest, rfl⟩
    · rw [readFields, hnext]
      rfl
    · cases hm
      have hnextLength := (nextKey_eq_item_iff.1 hnext).length_le
      have hkeyLength := length_of_scanKey hkey
      simp only [List.length_cons] at hnextLength
      obtain ⟨t', hstring, hcolon⟩ := scanKey_eq_ok_iff.1 hkey
      have hcolon : expectColon t' = .ok t₂ := by
        rw [expectColon, hcolon]
        rfl
      obtain ⟨hskip, hblanks⟩ := valueText?_eq_some_iff.1 htext
      have hlength := length_of_skipBlanks hblanks
      rw [List.length_append] at hlength
      rw [readFields, gather?]
      simp only [hnext, hstring, hcolon, bind, Except.bind, hskip]
      cases hfield : fields.lookup key with
      | none => exact ih hrest (by omega) seen
      | some shape =>
        dsimp only
        split_ifs with hseen
        · rfl
        · rcases readShape_cases (hfields key shape hfield) htext (endsNumber_of_takeMembers hrest)
            n bound (by omega) with ⟨a, hread, ha⟩ | ⟨f, hread, ha⟩
          · rw [hread, ha]
            exact ih hrest (by omega) ((key, a) :: seen)
          · rw [hread, ha]
            rfl

/-- The values that a record takes from the items of its array: one for each field, in order. -/
def rowOf? (n : Nat) : List (String × Shape) → List Bytes → Option (List Json)
  | [], [] => some []
  | (_, shape) :: fields, text :: items =>
    (column? n shape text).bind fun a => (rowOf? n fields items).map (a :: ·)
  | _, _ => none

/-- A record takes its values from the items of its array. -/
theorem toOption_readRow {width atLeast : Nat} {label : String}
    {fields : List (String × Shape)} {items : List Bytes}
    (hfields : ∀ field ∈ fields, field.2.IsColumn) (hlength : items.length = fields.length)
    (seen : List Json) (h : takeItems m seen.isEmpty t = some (items, r)) (bound : Nat)
    (hbound : 2 * t.length + 3 ≤ bound) :
    (readRow bound (n + 1) label width atLeast fields seen t).toOption =
      (rowOf? n fields items).map fun values => (array (seen.reverse ++ values), r) := by
  induction m generalizing bound fields items seen t with
  | zero => cases h
  | succ m ih =>
    obtain ⟨bound, rfl⟩ : ∃ m, bound = m + 1 := Nat.exists_eq_add_one.2 (by omega)
    rcases takeItems_cases h with ⟨hnext, rfl⟩ |
      ⟨m', text, rest, t₁, t₂, hm, hnext, htext, hrest, rfl⟩
    · obtain rfl := List.length_eq_zero_iff.1 hlength.symm
      have hclose : closeList t = .ok r := by
        rw [closeList, nextItem_eq_stop_iff.1 hnext]
        rfl
      rw [readRow, hclose]
      simp [rowOf?, Except.map, Except.toOption]
    · cases hm
      obtain ⟨⟨name, shape⟩, fields, rfl⟩ := List.exists_cons_of_length_eq_add_one hlength.symm
      obtain ⟨hfield, hfields⟩ := List.forall_mem_cons.1 hfields
      obtain ⟨c, tail, rfl, -, hbefore⟩ := nextItem_eq_item_iff.1 hnext
      have hnextLength := hbefore.length_le
      have hends := endsNumber_of_takeItems hrest
      rw [readRow, rowOf?]
      simp only [hnext]
      rcases readShape_cases hfield htext hends n bound (by omega) with
        ⟨a, hread, ha⟩ | ⟨f, hread, ha⟩
      · have hvalue := (reads_iff_value? htext hends).2 ⟨rfl, (Option.filter_eq_some_iff.1 ha).1⟩
        have hvalueLength := hvalue.length_lt
        have hrow := ih hfields (Nat.succ.inj hlength) (a :: seen) hrest bound (by omega)
        simp only [hread, ha, Option.bind_some]
        rw [hrow]
        cases rowOf? n fields rest <;> simp
      · rw [hread, ha]
        rfl

/-! ## Both forms of a record -/

/-- The columns of the text of a record, with the texts of their values: the members of an object,
or the items of an array under the names of the columns, one for each. -/
def columns? (names : List String) (text : Bytes) : Option (List (String × Bytes)) :=
  match members? text with
  | some members => some members
  | none =>
    (items? text).bind fun items =>
      if items.length = names.length then some (names.zip items) else none

/-- The keys of the entries that a record takes are distinct. -/
theorem nodup_gather? {fields : List (String × Shape)} {seen entries : List (String × Json)}
    {members : List (String × Bytes)} (h : gather? n fields seen members = some entries)
    (hseen : (seen.map Prod.fst).Nodup) : (entries.map Prod.fst).Nodup := by
  induction members generalizing seen with
  | nil =>
    cases h
    exact hseen
  | cons member members ih =>
    obtain ⟨key, text⟩ := member
    rw [gather?] at h
    split at h
    · exact ih h hseen
    · split_ifs at h with hkey
      obtain ⟨a, -, h⟩ := Option.bind_eq_some_iff.1 h
      refine ih h (List.nodup_cons.2 ⟨fun hmem => hkey ?_, hseen⟩)
      obtain ⟨⟨k, c⟩, hentry, rfl⟩ := List.mem_map.1 hmem
      rw [(lookup_eq_some_iff_mem hseen).2 hentry]
      rfl

/-- A record takes as entries what it takes as values, where it is an array. -/
theorem gather?_zip {known fields : List (String × Shape)} {items : List Bytes}
    (hnodup : (fields.map Prod.fst).Nodup) (hlength : items.length = fields.length)
    (hknown : ∀ field ∈ fields, known.lookup field.1 = some field.2)
    {seen : List (String × Json)} (hseen : ∀ field ∈ fields, seen.lookup field.1 = none) :
    gather? n known seen ((fields.map Prod.fst).zip items) =
      (rowOf? n fields items).map fun values =>
        ((fields.map Prod.fst).zip values).reverse ++ seen := by
  induction fields generalizing items seen with
  | nil =>
    obtain rfl := List.length_eq_zero_iff.1 hlength
    rfl
  | cons field fields ih =>
    obtain ⟨name, shape⟩ := field
    obtain ⟨text, items, rfl⟩ := List.exists_cons_of_length_eq_add_one hlength
    obtain ⟨hname, hknown⟩ := List.forall_mem_cons.1 hknown
    obtain ⟨hfresh, hseen⟩ := List.forall_mem_cons.1 hseen
    obtain ⟨hnotMem, hnodup⟩ := List.nodup_cons.1 hnodup
    rw [List.map_cons, List.zip_cons_cons, gather?, rowOf?]
    simp only [hname, hfresh]
    cases column? n shape text with
    | none => rfl
    | some a =>
      have hseen' : ∀ field ∈ fields, List.lookup field.1 ((name, a) :: seen) = none := by
        intro field hfield
        rw [List.lookup_cons, beq_false_of_ne]
        · exact hseen field hfield
        · rintro rfl
          exact hnotMem (List.mem_map.2 ⟨_, hfield, rfl⟩)
      have := ih hnodup (Nat.succ.inj hlength) hknown hseen'
      simp only [Option.bind_some, Option.isSome_none, Bool.false_eq_true, if_false]
      rw [this]
      cases rowOf? n fields items <;> simp

/-- A record takes a value for each field from the items of its array. -/
theorem length_of_rowOf? {values : List Json} (h : rowOf? n fields items = some values) :
    values.length = fields.length := by
  induction fields generalizing items values with
  | nil =>
    cases items with
    | nil =>
      cases h
      rfl
    | cons => cases h
  | cons field fields ih =>
    cases items with
    | nil => cases h
    | cons text items =>
      rw [rowOf?] at h
      obtain ⟨a, -, h⟩ := Option.bind_eq_some_iff.1 h
      obtain ⟨values, hvalues, rfl⟩ := Option.map_eq_some_iff.1 h
      rw [List.length_cons, List.length_cons, ih hvalues]

/-- A record takes its entries from the members of the text of an object. -/
theorem read_record_of_members?
    (hfields : ∀ key shape, fields.lookup key = some shape → shape.IsColumn)
    (h : members? v = some columns) :
    (Json.read (.record label fields atLeast) v).toOption =
      (gather? (depthLimit - 2) fields [] columns).map fun entries =>
        ofEntries entries.reverse := by
  obtain ⟨tail, r, hbrace, hmembers, hblanks⟩ := within?_eq_some_iff.1 h
  have hlength := length_of_skipBlanks hbrace
  rw [List.length_cons] at hlength
  have hread : readShape (4 * v.length + 8) depthLimit (.record label fields atLeast) v =
      readFields (4 * v.length + 7) (depthLimit - 2 + 1) fields true [] tail := by
    rw [readShape, hbrace]
    rfl
  rw [toOption_read, hread, toOption_readFields hfields hmembers (by omega) []]
  cases gather? (depthLimit - 2) fields [] columns <;> simp [hblanks]

/-- A record takes its values from the items of the text of an array. -/
theorem read_record_of_items? (hfields : ∀ field ∈ fields, field.2.IsColumn)
    (h : items? v = some items) (hlength : items.length = fields.length) :
    (Json.read (.record label fields atLeast) v).toOption =
      (rowOf? (depthLimit - 2) fields items).map array := by
  obtain ⟨tail, r, hbracket, hitems, hblanks⟩ := within?_eq_some_iff.1 h
  have hlength' := length_of_skipBlanks hbracket
  rw [List.length_cons] at hlength'
  have hread : readShape (4 * v.length + 8) depthLimit (.record label fields atLeast) v =
      readRow (4 * v.length + 7) (depthLimit - 2 + 1) label fields.length atLeast fields []
        tail := by
    rw [readShape, hbracket]
    rfl
  rw [toOption_read, hread, toOption_readRow hfields hlength [] hitems _ (by omega)]
  cases rowOf? (depthLimit - 2) fields items <;> simp [hblanks]

/-- The look-up that the text of a record gives is that of the entries that it takes from its
columns. -/
theorem read_record (label : String) (hfields : ∀ field ∈ fields, field.2.IsColumn)
    (hnodup : (fields.map Prod.fst).Nodup)
    (h : columns? (fields.map Prod.fst) v = some columns) :
    ((Json.read (.record label fields fields.length) v).toOption.map fun a =>
        (a.row? (fields.map Prod.fst) fields.length).getD fun _ => none) =
      (gather? (depthLimit - 2) fields [] columns).map fun entries key => entries.lookup key := by
  unfold columns? at h
  split at h
  · next members hmembers =>
    cases h
    have hknown : ∀ key shape, fields.lookup key = some shape → shape.IsColumn :=
      fun key shape hkey => hfields _ ((lookup_eq_some_iff_mem hnodup).1 hkey)
    rw [read_record_of_members? hknown hmembers, Option.map_map]
    refine Option.map_congr fun entries hentries => funext fun key => ?_
    have hperm := entries.reverse_perm
    have hkeys := (hperm.map Prod.fst).nodup_iff.2 (nodup_gather? hentries List.nodup_nil)
    exact (get?_ofEntries hkeys key).trans (lookup_eq_of_perm hperm hkeys key)
  · next hmembers =>
    obtain ⟨items, hitems, h⟩ := Option.bind_eq_some_iff.1 h
    split_ifs at h with hlength
    cases h
    rw [List.length_map] at hlength
    have hknown : ∀ field ∈ fields, fields.lookup field.1 = some field.2 :=
      fun field hfield => (lookup_eq_some_iff_mem hnodup).2 hfield
    rw [read_record_of_items? hfields hitems hlength, Option.map_map,
      gather?_zip hnodup hlength hknown fun _ _ => rfl, Option.map_map]
    refine Option.map_congr fun values hvalues => funext fun key => ?_
    have hwidth := length_of_rowOf? hvalues
    have hrow : (array values).row? (fields.map Prod.fst) fields.length =
        some fun key => ((fields.map Prod.fst).zip values).lookup key :=
      if_pos ⟨hwidth.ge, by rw [hwidth, List.length_map]⟩
    have hkeys : (((fields.map Prod.fst).zip values).map Prod.fst).Nodup := by
      rw [List.map_fst_zip (by rw [List.length_map, hwidth])]
      exact hnodup
    simp only [Function.comp_apply, hrow, Option.getD_some, List.append_nil]
    exact lookup_eq_of_perm (List.reverse_perm _).symm hkeys key

/-! ## One key at a time -/

/-- The texts of the values under a key. -/
def textsAt (key : String) (columns : List (String × Bytes)) : List Bytes :=
  (columns.filter fun column => column.1 == key).map Prod.snd

/-- What a record takes under one key, beside what it has, if nothing is wrong with it. -/
def held? (n : Nat) (shape : Shape) : Option Json → List Bytes → Option (Option Json)
  | a?, [] => some a?
  | none, text :: texts => (column? n shape text).bind fun a => held? n shape (some a) texts
  | some _, _ :: _ => none

/-- Under its own key, a column comes first. -/
theorem textsAt_cons_self (key : String) (text : Bytes) (columns : List (String × Bytes)) :
    textsAt key ((key, text) :: columns) = text :: textsAt key columns := by
  simp [textsAt]

/-- Under another key, a column does not matter. -/
theorem textsAt_cons_of_ne {key other : String} (h : other ≠ key) (text : Bytes)
    (columns : List (String × Bytes)) :
    textsAt key ((other, text) :: columns) = textsAt key columns := by
  simp [textsAt, h]

section
variable {key : String} {seen entries : List (String × Json)}

/-- Under each key that a record knows, it takes what the columns under the key hold. -/
theorem held?_of_gather? (h : gather? n fields seen columns = some entries)
    (hkey : fields.lookup key = some shape) :
    held? n shape (seen.lookup key) (textsAt key columns) = some (entries.lookup key) := by
  induction columns generalizing seen with
  | nil =>
    cases h
    rfl
  | cons column columns ih =>
    obtain ⟨k, text⟩ := column
    rw [gather?] at h
    by_cases hk : k = key
    · subst hk
      simp only [hkey] at h
      split_ifs at h with hseen
      obtain ⟨a, ha, h⟩ := Option.bind_eq_some_iff.1 h
      rw [Bool.not_eq_true, Option.isSome_eq_false_iff, Option.isNone_iff_eq_none] at hseen
      have := ih h
      rw [List.lookup_cons_self] at this
      rw [textsAt_cons_self, hseen, held?, ha]
      exact this
    · rw [textsAt_cons_of_ne hk]
      split at h
      · exact ih h
      · split_ifs at h
        obtain ⟨a, -, h⟩ := Option.bind_eq_some_iff.1 h
        have := ih h
        rwa [List.lookup_cons, beq_false_of_ne (Ne.symm hk)] at this

/-- A record takes what the columns hold if nothing is wrong under any key that it knows. -/
theorem exists_gather? (h : ∀ key shape, fields.lookup key = some shape →
      (held? n shape (seen.lookup key) (textsAt key columns)).isSome = true) :
    ∃ entries, gather? n fields seen columns = some entries := by
  induction columns generalizing seen with
  | nil => exact ⟨seen, rfl⟩
  | cons column columns ih =>
    obtain ⟨k, text⟩ := column
    rw [gather?]
    cases hk : fields.lookup k with
    | none =>
      refine ih fun key shape hkey => ?_
      have hne : k ≠ key := by
        rintro rfl
        cases hk.symm.trans hkey
      have := h key shape hkey
      rwa [textsAt_cons_of_ne hne] at this
    | some shape =>
      have hown := h k shape hk
      rw [textsAt_cons_self] at hown
      cases hseen : seen.lookup k with
      | some b =>
        rw [hseen] at hown
        cases hown
      | none =>
        rw [hseen, held?] at hown
        obtain ⟨_, hheld⟩ := Option.isSome_iff_exists.1 hown
        obtain ⟨a, ha, hheld⟩ := Option.bind_eq_some_iff.1 hheld
        simp only [ha, Option.isSome_none, Bool.false_eq_true, if_false, Option.bind_some]
        refine ih fun key shape' hkey => ?_
        by_cases hne : k = key
        · subst hne
          cases hk.symm.trans hkey
          rw [List.lookup_cons_self, hheld]
          rfl
        · have := h key shape' hkey
          rw [textsAt_cons_of_ne hne] at this
          rwa [List.lookup_cons, beq_false_of_ne (Ne.symm hne)]

end

end SearchGateway.Json
