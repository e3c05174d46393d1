import SearchGateway.Settings.Layer

/-!
# What layers say about a setting

A setting is a key of a section. What a layer says about it is listed by `sayings`: the values that
its entries put there, or further inside. This is all that counts for the setting when the layer is
laid over a tree (`settingAt?_overlay`): the values are laid one by one over the one that is there,
and what the layer says about other settings does not matter. The condition is that no entry
replaces the section as a whole by something that is no table (`ReplacesSection`); then a section
stays a table (`HasTable.overlay`).
-/

namespace SearchGateway.Settings

/-! ## Looking up -/

/-- The value of a key of a section in a tree. -/
def settingAt? (part key : String) (tree : Json) : Option Json :=
  (tree.get? part).bind (Json.get? key)

variable {part key name other : String} {value root : Json} {steps rest : List Step}
  {entry : String × Json} {layer : List (String × Json)}

/-- Only tables have fields. -/
theorem get?_eq_lookup_fields (root : Json) (name : String) :
    root.get? name = root.fields.lookup name := by
  cases root <;> rfl

/-- Every key leads to a field first. -/
theorem exists_placeOf_eq (key : String) : ∃ name rest, placeOf key = .field name :: rest := by
  unfold placeOf
  dsimp only
  split
  · exact ⟨_, _, rfl⟩
  · cases furtherSteps? key.toList.length
        (key.toList.drop (key.toList.takeWhile isNameChar).length) with
    | none => exact ⟨_, _, rfl⟩
    | some rest => exact ⟨_, _, rfl⟩

/-! ## Laying a value over another -/

/-- What comes of a value when another one is laid over it, at the place itself or further inside:
a table is merged with the value that is there, any other value replaces it. -/
def lay (below : Option Json) : List Step × Json → Option Json
  | ([], .object incoming) => some (putFields (below.getD (.object [])) incoming)
  | ([], value) => some value
  | (steps, value) => some (putAt value steps (below.getD .null))

/-- A value that is put behind a field is laid over what is there. -/
theorem get?_putAt_self (value : Json) (name : String) (rest : List Step) (root : Json) :
    (putAt value (.field name :: rest) root).get? name = lay (root.get? name) (rest, value) := by
  rw [get?_eq_lookup_fields root]
  cases rest with
  | nil =>
    change (putField root name value).get? name = _
    cases value with
    | object incoming => exact lookup_setField_self ..
    | _ => exact lookup_setField_self ..
  | cons step rest => exact lookup_setField_self ..

/-- A value that is put behind a field leaves the other fields as they are. -/
theorem get?_putAt_of_ne (value : Json) (rest : List Step) (root : Json) (h : other ≠ name) :
    (putAt value (.field name :: rest) root).get? other = root.get? other := by
  rw [get?_eq_lookup_fields root]
  cases rest with
  | nil =>
    change (putField root name value).get? other = _
    cases value with
    | object incoming => exact lookup_setField_of_ne _ _ h
    | _ => exact lookup_setField_of_ne _ _ h
  | cons step rest => exact lookup_setField_of_ne _ _ h

/-- Putting a value behind a field makes a table. -/
theorem exists_putAt_eq_object (value : Json) (name : String) (rest : List Step) (root : Json) :
    ∃ fields, putAt value (.field name :: rest) root = .object fields := by
  cases rest with
  | nil =>
    change ∃ fields, putField root name value = .object fields
    cases value <;> exact ⟨_, rfl⟩
  | cons step rest => exact ⟨_, rfl⟩

/-! ## What is said about a setting -/

/-- What the fields of a table say about a key. -/
def saidByFields (key : String) (incoming : List (String × Json)) : List (List Step × Json) :=
  incoming.filterMap fun (name, value) =>
    if Text.lowerCase name = key then some ([], value) else none

/-- What an entry that leads into a section says about a key of it. -/
def saidInside (key : String) : List Step → Json → List (List Step × Json)
  | [], .object incoming => saidByFields key incoming
  | .field name :: rest, value => if name = key then [(rest, value)] else []
  | _, _ => []

/-- What an entry says about a setting: the values that it puts there, or further inside. -/
def saidBy (part key : String) (entry : String × Json) : List (List Step × Json) :=
  match placeOf entry.1 with
  | .field name :: rest => if name = part then saidInside key rest entry.2 else []
  | _ => []

/-- What a layer says about a setting, in order. -/
def sayings (part key : String) (layer : List (String × Json)) : List (List Step × Json) :=
  layer.flatMap (saidBy part key)

/-- An entry puts something that is no table in the place of a section: a value, or a list. -/
def ReplacesSection (part : String) (entry : String × Json) : Prop :=
  (placeOf entry.1 = [.field part] ∧ ∀ incoming, entry.2 ≠ .object incoming) ∨
    ∃ i rest, placeOf entry.1 = .field part :: .position i :: rest

/-- What fields say, the first one first. -/
theorem saidByFields_cons (key name : String) (value : Json) (incoming : List (String × Json)) :
    saidByFields key ((name, value) :: incoming) =
      if Text.lowerCase name = key then ([], value) :: saidByFields key incoming
      else saidByFields key incoming := by
  by_cases h : Text.lowerCase name = key <;> simp [saidByFields, h]

/-- Fields are laid over the field of their name. -/
theorem get?_putFields (key : String) (incoming : List (String × Json)) (root : Json) :
    (putFields root incoming).get? key = (saidByFields key incoming).foldl lay (root.get? key) := by
  induction incoming generalizing root with
  | nil => rfl
  | cons field incoming ih =>
    obtain ⟨name, value⟩ := field
    rw [putFields, ih, saidByFields_cons]
    by_cases hname : Text.lowerCase name = key
    · subst hname
      rw [if_pos rfl, List.foldl_cons]
      exact congrArg (fun below => List.foldl lay below _)
        (get?_putAt_self value (Text.lowerCase name) [] root)
    · rw [if_neg hname]
      exact congrArg (fun below => List.foldl lay below _)
        (get?_putAt_of_ne value [] root (Ne.symm hname))

/-- An entry does to a setting what it says about it. -/
theorem settingAt?_putAt (part key : String) (h : ¬ReplacesSection part entry) (root : Json) :
    settingAt? part key (putAt entry.2 (placeOf entry.1) root) =
      (saidBy part key entry).foldl lay (settingAt? part key root) := by
  obtain ⟨name, rest, hplace⟩ := exists_placeOf_eq entry.1
  rw [saidBy, hplace]
  dsimp only
  by_cases hname : name = part
  · subst hname
    rw [if_pos rfl, settingAt?, get?_putAt_self]
    cases rest with
    | nil =>
      cases hvalue : entry.2 with
      | object incoming =>
        dsimp only [lay, saidInside]
        rw [Option.bind_some, get?_putFields, settingAt?]
        cases root.get? name <;> rfl
      | _ => exact absurd (.inl ⟨hplace, by rw [hvalue]; nofun⟩) h
    | cons step rest =>
      cases step with
      | field inner =>
        have hbelow : ((root.get? name).getD .null).get? key = settingAt? name key root := by
          unfold settingAt?
          cases root.get? name <;> rfl
        dsimp only [lay, saidInside]
        rw [Option.bind_some]
        by_cases hinner : inner = key
        · subst hinner
          rw [if_pos rfl, get?_putAt_self, hbelow]
          rfl
        · rw [if_neg hinner, get?_putAt_of_ne _ _ _ (Ne.symm hinner), hbelow]
          rfl
      | position i => exact absurd (.inr ⟨i, rest, hplace⟩) h
  · rw [if_neg hname, settingAt?, get?_putAt_of_ne _ _ _ (Ne.symm hname)]
    rfl

/-- A layer does to a setting what it says about it. -/
theorem settingAt?_overlay (part key : String) (h : ∀ entry ∈ layer, ¬ReplacesSection part entry)
    (root : Json) :
    settingAt? part key (overlay root layer) =
      (sayings part key layer).foldl lay (settingAt? part key root) := by
  induction layer generalizing root with
  | nil => rfl
  | cons entry layer ih =>
    obtain ⟨hentry, hlayer⟩ := List.forall_mem_cons.1 h
    rw [sayings, List.flatMap_cons, List.foldl_append, ← settingAt?_putAt part key hentry]
    exact ih hlayer _

/-! ## Sections -/

/-- What a tree has of a section is a table. -/
def HasTable (part : String) (tree : Json) : Prop :=
  ∀ content, tree.get? part = some content → ∃ fields, content = .object fields

/-- Fields are put into a table. -/
theorem exists_putFields_eq_object (fields incoming : List (String × Json)) :
    ∃ fields', putFields (.object fields) incoming = .object fields' := by
  induction incoming generalizing fields with
  | nil => exact ⟨fields, rfl⟩
  | cons field incoming ih =>
    obtain ⟨name, value⟩ := field
    obtain ⟨fields', hput⟩ := exists_putAt_eq_object value (Text.lowerCase name) [] (.object fields)
    rw [putFields]
    change putField (.object fields) (Text.lowerCase name) value = .object fields' at hput
    rw [hput]
    exact ih fields'

/-- A section stays a table as long as no entry replaces it. -/
theorem HasTable.putAt {tree : Json} (htable : HasTable part tree)
    (h : ¬ReplacesSection part entry) : HasTable part (putAt entry.2 (placeOf entry.1) tree) := by
  obtain ⟨name, rest, hplace⟩ := exists_placeOf_eq entry.1
  intro content hcontent
  rw [hplace] at hcontent
  by_cases hname : name = part
  · subst hname
    rw [get?_putAt_self] at hcontent
    cases rest with
    | nil =>
      cases hvalue : entry.2 with
      | object incoming =>
        obtain ⟨fields, hfields⟩ :
            ∃ fields, (tree.get? name).getD (.object []) = .object fields := by
          cases hget : tree.get? name with
          | none => exact ⟨[], rfl⟩
          | some below => exact htable below hget
        rw [hvalue, lay, hfields] at hcontent
        cases hcontent
        exact exists_putFields_eq_object fields incoming
      | _ => exact absurd (.inl ⟨hplace, by rw [hvalue]; nofun⟩) h
    | cons step rest =>
      cases step with
      | field inner =>
        cases hcontent
        exact exists_putAt_eq_object ..
      | position i => exact absurd (.inr ⟨i, rest, hplace⟩) h
  · rw [get?_putAt_of_ne _ _ _ (Ne.symm hname)] at hcontent
    exact htable content hcontent

/-- A section stays a table as long as no layer replaces it. -/
theorem HasTable.overlay {tree : Json} (htable : HasTable part tree)
    (h : ∀ entry ∈ layer, ¬ReplacesSection part entry) : HasTable part (overlay tree layer) := by
  induction layer generalizing tree with
  | nil => exact htable
  | cons entry layer ih =>
    obtain ⟨hentry, hlayer⟩ := List.forall_mem_cons.1 h
    exact ih (htable.putAt hentry) hlayer

end SearchGateway.Settings
