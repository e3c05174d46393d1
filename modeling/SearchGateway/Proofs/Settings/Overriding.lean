import Mathlib.Data.List.Nodup
import SearchGateway.Proofs.Settings.Decoding

/-!
# Overriding

What a layer has for a setting on its own is `given`. When the layer is laid over others, this is
what the setting becomes, up to what tables and lists have in them: `Over` lists the cases, and each
value that is laid keeps to them (`Over.lay`). A setting that is decoded from a scalar does not show
the difference (`Over.holds`), but for one case: an empty table leaves alone what it is laid over.

A layer that puts anything but a table at a setting leaves nothing of what is below
(`Overrides.foldl_eq`).
-/

namespace SearchGateway.Settings

variable {below own now : Option Json} {part key name : String} {fields : List (String × Json)}

/-- What sayings make of a setting on their own. -/
def given (said : List (List Step × Json)) : Option Json := said.foldl lay none

/-- What a setting is, by a value on its own and by the same value laid over another: nothing is
said; the value stands; an empty table leaves what is below; of two lists nothing more is known, and
of two tables that the one has the keys of the other. -/
inductive Over (below : Option Json) : Option Json → Option Json → Prop where
  | silent : Over below none below
  | same {v : Json} : Over below (some v) (some v)
  | hollow {v : Json} (hbelow : below = some v) : Over below (some (.object [])) (some v)
  | lists {items items' : List Json} : Over below (some (.array items)) (some (.array items'))
  | tables {fields fields' : List (String × Json)} (hne : fields ≠ [])
      (hnodup : (fields.map Prod.fst).Nodup)
      (hsub : fields.map Prod.fst ⊆ fields'.map Prod.fst) :
    Over below (some (.object fields)) (some (.object fields'))

/-! ## Names of fields -/

/-- The names of fields of which one was set. -/
theorem mem_map_fst_setField {n : String} (fields : List (String × Json)) (name : String)
    (value : Json) :
    n ∈ (setField fields name value).map Prod.fst ↔ n = name ∨ n ∈ fields.map Prod.fst := by
  induction fields with
  | nil => simp [setField]
  | cons field fields ih =>
    obtain ⟨k, v⟩ := field
    rw [setField]
    split
    · next hk =>
      subst hk
      simp
    · rw [List.map_cons, List.map_cons, List.mem_cons, List.mem_cons, ih]
      exact or_left_comm

/-- Setting a field keeps the names of the fields distinct. -/
theorem nodup_setField (hnodup : (fields.map Prod.fst).Nodup) (name : String) (value : Json) :
    ((setField fields name value).map Prod.fst).Nodup := by
  induction fields with
  | nil => simp [setField]
  | cons field fields ih =>
    obtain ⟨k, v⟩ := field
    obtain ⟨hnot, hnodup⟩ := List.nodup_cons.1 hnodup
    rw [setField]
    split
    · exact List.nodup_cons.2 ⟨hnot, hnodup⟩
    · next hk =>
      refine List.nodup_cons.2 ⟨?_, ih hnodup⟩
      rw [mem_map_fst_setField]
      exact not_or.2 ⟨hk, hnot⟩

/-- The fields of a tree have distinct names, all of them among those of another. -/
structure NamesWithin (own now : Json) : Prop where
  nodup : (own.fields.map Prod.fst).Nodup
  subset : own.fields.map Prod.fst ⊆ now.fields.map Prod.fst

/-- Putting a value behind a field sets this field. -/
theorem exists_putAt_eq_setField (value : Json) (name : String) (rest : List Step) (root : Json) :
    ∃ v, putAt value (.field name :: rest) root = .object (setField root.fields name v) := by
  cases rest with
  | nil =>
    change ∃ v, putField root name value = .object (setField root.fields name v)
    cases value <;> exact ⟨_, rfl⟩
  | cons step rest => exact ⟨_, rfl⟩

/-- Putting values behind a field of two trees keeps the names of the one within the other's, and
there is one. -/
theorem NamesWithin.putAt {own now : Json} (h : NamesWithin own now) (value : Json) (name : String)
    (rest : List Step) :
    NamesWithin (putAt value (.field name :: rest) own) (putAt value (.field name :: rest) now) ∧
      (putAt value (.field name :: rest) own).fields ≠ [] := by
  obtain ⟨v, hown⟩ := exists_putAt_eq_setField value name rest own
  obtain ⟨v', hnow⟩ := exists_putAt_eq_setField value name rest now
  rw [hown, hnow]
  refine ⟨⟨nodup_setField h.nodup name v, ?_⟩, ?_⟩
  · intro n hn
    rw [Json.fields, mem_map_fst_setField] at hn ⊢
    exact hn.imp_right (h.subset ·)
  · intro hnil
    have hname := (mem_map_fst_setField own.fields name v).2 (.inl rfl)
    rw [Json.fields] at hnil
    rw [hnil] at hname
    cases hname

/-- Putting fields into two trees keeps the names of the one within the other's. -/
theorem NamesWithin.putFields {own now : Json} (h : NamesWithin own now) (hne : own.fields ≠ [])
    (incoming : List (String × Json)) :
    NamesWithin (putFields own incoming) (putFields now incoming) ∧
      (putFields own incoming).fields ≠ [] := by
  induction incoming generalizing own now with
  | nil => exact ⟨h, hne⟩
  | cons field incoming ih =>
    obtain ⟨name, value⟩ := field
    obtain ⟨hnames, hset⟩ := h.putAt value (Text.lowerCase name) []
    exact ih hnames hset

/-! ## Laying values -/

/-- Putting a value behind a position makes a list. -/
theorem exists_putAt_eq_array (value : Json) (i : Int) (rest : List Step) (root : Json) :
    ∃ items, putAt value (.position i :: rest) root = .array items := by
  cases rest <;> exact ⟨_, rfl⟩

/-- A table with a field over one with its names. -/
theorem Over.of_namesWithin {own now : Json} (hown : ∃ fields, own = .object fields)
    (hnow : ∃ fields, now = .object fields) (h : NamesWithin own now) (hne : own.fields ≠ []) :
    Over below (some own) (some now) := by
  obtain ⟨fields, rfl⟩ := hown
  obtain ⟨fields', rfl⟩ := hnow
  exact .tables hne h.nodup h.subset

/-- The trees that a value is put into further inside: the same, or the names of the one are within
those of the other. -/
theorem Over.namesWithin (h : Over below own now) {e : Json} (hempty : e.fields = []) :
    own = now ∨ NamesWithin (own.getD e) (now.getD e) := by
  have hnothing : ∀ {own now : Json}, own.fields = [] → NamesWithin own now := by
    intro own now hnil
    exact ⟨by simp [hnil], by simp [hnil]⟩
  cases h with
  | silent => exact .inr (hnothing hempty)
  | same => exact .inl rfl
  | hollow => exact .inr (hnothing rfl)
  | lists => exact .inr (hnothing rfl)
  | tables hne hnodup hsub => exact .inr ⟨hnodup, hsub⟩

/-- Each value that is laid keeps to the cases. -/
theorem Over.lay (h : Over below own now) (said : List Step × Json) :
    Over below (lay own said) (lay now said) := by
  obtain ⟨steps, value⟩ := said
  cases steps with
  | nil =>
    cases value with
    | object incoming =>
      cases incoming with
      | nil =>
        -- An empty table stands only where nothing is.
        cases h with
        | silent =>
          cases below with
          | none => exact .same
          | some v => exact .hollow rfl
        | same => exact .same
        | hollow hbelow => exact .hollow hbelow
        | lists => exact .lists
        | tables hne hnodup hsub => exact .tables hne hnodup hsub
      | cons field incoming =>
        obtain ⟨name, value⟩ := field
        rcases h.namesWithin (e := .object []) rfl with rfl | hnames
        · exact .same
        · obtain ⟨hnames, hne⟩ := hnames.putAt value (Text.lowerCase name) []
          obtain ⟨hnames, hne⟩ := hnames.putFields hne incoming
          have htable : ∀ root, ∃ fields,
              putFields root ((name, value) :: incoming) = .object fields := by
            intro root
            obtain ⟨fields, hput⟩ := exists_putAt_eq_object value (Text.lowerCase name) [] root
            obtain ⟨fields', hputs⟩ := exists_putFields_eq_object fields incoming
            rw [← hput] at hputs
            exact ⟨fields', hputs⟩
          exact .of_namesWithin (htable _) (htable _) hnames hne
    | _ => exact .same
  | cons step rest =>
    cases step with
    | field name =>
      rcases h.namesWithin (e := .null) rfl with rfl | hnames
      · exact .same
      · obtain ⟨hnames, hne⟩ := hnames.putAt value name rest
        exact .of_namesWithin (exists_putAt_eq_object ..) (exists_putAt_eq_object ..) hnames hne
    | position i =>
      obtain ⟨items, hown⟩ := exists_putAt_eq_array value i rest (own.getD .null)
      obtain ⟨items', hnow⟩ := exists_putAt_eq_array value i rest (now.getD .null)
      dsimp only [Settings.lay]
      rw [hown, hnow]
      exact .lists

/-- What sayings make of a setting on their own, over what they make of it where there is something
already. -/
theorem over_given (below : Option Json) (said : List (List Step × Json)) :
    Over below (given said) (said.foldl lay below) := by
  have hkeep : ∀ own now, Over below own now →
      Over below (said.foldl lay own) (said.foldl lay now) := by
    induction said with
    | nil => exact fun _ _ h => h
    | cons value said ih => exact fun own now h => ih _ _ (h.lay value)
  exact hkeep none below .silent

/-! ## What is decoded -/

/-- A value that counts where it stands: any but an empty table. -/
def counts : Json → Bool
  | .object [] => false
  | _ => true

/-- Only the empty table does not count. -/
theorem counts_eq_false_iff {v : Json} : counts v = false ↔ v = .object [] := by
  unfold counts
  split
  · exact ⟨fun _ => rfl, fun _ => rfl⟩
  · next hne => exact ⟨nofun, fun h => absurd h hne⟩

/-- A value that a scalar is decoded from is one that counts. -/
theorem counts_of_holds {x : Setting} {settings : Settings} {v : Json}
    (hx : DecodesScalars x.decode) (hholds : x.Holds settings (some v)) : counts v = true := by
  cases hcounts : counts v with
  | true => rfl
  | false =>
    rw [counts_eq_false_iff.1 hcounts] at hholds
    exact absurd hholds hx.empty

/-- A scalar is decoded from a value that counts, if from any. -/
theorem holds_filter_counts {x : Setting} {settings : Settings} (hx : DecodesScalars x.decode)
    (hholds : x.Holds settings now) : x.Holds settings (now.filter counts) := by
  cases now with
  | none => exact hholds
  | some v =>
    rw [Option.filter_some, if_pos (counts_of_holds hx hholds)]
    exact hholds

/-- A scalar is decoded from the value that is laid, on its own, if it is one that counts, and else
from what is below. -/
theorem Over.holds {x : Setting} {settings : Settings} (hx : DecodesScalars x.decode)
    (h : Over below own now) (hholds : x.Holds settings now) :
    x.Holds settings (own.filter counts <|> below.filter counts) := by
  cases h with
  | silent => exact holds_filter_counts hx hholds
  | same =>
    rw [Option.filter_some, if_pos (counts_of_holds hx hholds)]
    exact hholds
  | hollow hbelow =>
    rw [hbelow]
    exact holds_filter_counts hx hholds
  | lists => exact absurd hholds hx.array
  | @tables fields fields' hne hnodup hsub =>
    have hown : x.Holds settings (some (.object fields)) := hx.object hne hnodup hsub hholds
    rw [Option.filter_some, if_pos (counts_of_holds hx hown)]
    exact hown

/-- Sayings put something that is no table at the setting itself. -/
def Overrides (said : List (List Step × Json)) : Prop :=
  ∃ value, (∀ incoming, value ≠ .object incoming) ∧ ([], value) ∈ said

/-- Where a value is put that is no table, nothing is left of what is below. -/
theorem Overrides.foldl_eq {said : List (List Step × Json)} (h : Overrides said)
    (below below' : Option Json) : said.foldl lay below = said.foldl lay below' := by
  obtain ⟨value, htable, hmem⟩ := h
  obtain ⟨before, after, rfl⟩ := List.append_of_mem hmem
  have hlay : ∀ below, lay below ([], value) = some value := by
    intro below
    cases value with
    | object incoming => exact absurd rfl (htable incoming)
    | _ => rfl
  rw [List.foldl_append, List.foldl_append, List.foldl_cons, List.foldl_cons, hlay, hlay]

end SearchGateway.Settings
