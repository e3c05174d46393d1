import SearchGateway.Proofs.Settings.Overriding
import SearchGateway.Proofs.Settings.Variables

/-!
# Plain files

A file has a value for a setting if it makes one on its own (`ownValue?`). Files may name places in
many ways; the plain one is a table for each section, with names in lower case and each name once
(`IsPlain`). A plain file says of a setting what is written under its key, once
(`IsPlain.sayings_eq`), and replaces no section.
-/

namespace SearchGateway.Settings

/-- The value that a layer has for a setting on its own, over nothing. -/
def ownValue? (part key : String) (layer : List (String × Json)) : Option Json :=
  settingAt? part key (merged [layer])

variable {part key : String} {layer fields : List (String × Json)}

/-- What a layer has for a setting on its own is what its sayings make. -/
theorem ownValue?_eq_given (h : ∀ entry ∈ layer, ¬ReplacesSection part entry) :
    ownValue? part key layer = given (sayings part key layer) :=
  settingAt?_overlay part key h (.object [])

/-- A layer as files are mostly written: a table for each section, each name in lower case and
once. -/
structure IsPlain (layer : List (String × Json)) : Prop where
  nodup : (layer.map Prod.fst).Nodup
  named : ∀ entry ∈ layer, isName entry.1.toList = true
  table : ∀ entry ∈ layer, ∃ fields, entry.2 = .object fields ∧ (fields.map Prod.fst).Nodup ∧
    ∀ field ∈ fields, isName field.1.toList = true

/-- A name is its own lower case. -/
theorem lowerCase_of_isName {name : String} (h : isName name.toList = true) :
    Text.lowerCase name = name := by
  have hnamed := named_of_isName h
  rw [Step.named, String.ofList_toList] at hnamed
  exact Step.field.inj hnamed

/-- A name leads to the field of the root. -/
theorem placeOf_of_isName {name : String} (h : isName name.toList = true) :
    placeOf name = [.field name] := by
  have hchars : name.toList.takeWhile isNameChar = name.toList :=
    List.takeWhile_eq_self_iff.2 fun c hc => (forall_mem_of_isName h c hc).2.2
  have hfurther : ∀ bound, furtherSteps? bound [] = some [] := fun bound => by
    cases bound <;> rfl
  unfold placeOf
  dsimp only
  rw [hchars, List.drop_length, hfurther]
  cases name.toList.isEmpty with
  | false => exact congrArg (fun step => [step]) ((named_of_isName h).trans (by simp))
  | true => exact congrArg (fun step => [step]) ((named_of_isName h).trans (by simp))

/-- A name that no field has leads to nothing. -/
theorem lookup_eq_none_of_notMem {name : String} (h : name ∉ fields.map Prod.fst) :
    fields.lookup name = none := by
  rw [List.lookup_eq_none_iff]
  intro field hfield
  rw [bne_iff_ne]
  rintro rfl
  exact h (List.mem_map_of_mem hfield)

/-- Fields with distinct names say of a key what stands under it. -/
theorem saidByFields_eq (hnodup : (fields.map Prod.fst).Nodup)
    (hnames : ∀ field ∈ fields, isName field.1.toList = true) :
    saidByFields key fields = (fields.lookup key).toList.map ([], ·) := by
  induction fields with
  | nil => rfl
  | cons field fields ih =>
    obtain ⟨name, value⟩ := field
    obtain ⟨hname, hnames⟩ := List.forall_mem_cons.1 hnames
    obtain ⟨hnot, hnodup⟩ := List.nodup_cons.1 hnodup
    rw [saidByFields_cons, lowerCase_of_isName hname, ih hnodup hnames, List.lookup_cons]
    by_cases hkey : name = key
    · subst hkey
      rw [if_pos rfl, beq_self_eq_true, lookup_eq_none_of_notMem hnot]
      rfl
    · rw [if_neg hkey, beq_eq_false_iff_ne.2 (Ne.symm hkey)]

/-- A plain file says of a setting what is written under its key. -/
theorem IsPlain.sayings_eq (h : IsPlain layer) :
    sayings part key layer = (settingAt? part key (.object layer)).toList.map ([], ·) := by
  obtain ⟨hnodup, hnamed, htable⟩ := h
  induction layer with
  | nil => rfl
  | cons entry layer ih =>
    obtain ⟨name, content⟩ := entry
    obtain ⟨hname, hnames⟩ := List.forall_mem_cons.1 hnamed
    obtain ⟨⟨fields, rfl, hfields⟩, htables⟩ := List.forall_mem_cons.1 htable
    obtain ⟨hnot, hdistinct⟩ := List.nodup_cons.1 hnodup
    have htail := ih hdistinct hnames htables
    rw [settingAt?, Json.get?] at htail ⊢
    rw [sayings] at htail ⊢
    rw [List.flatMap_cons, htail, saidBy, placeOf_of_isName hname, List.lookup_cons]
    dsimp only [saidInside]
    by_cases hpart : name = part
    · subst hpart
      rw [if_pos rfl, saidByFields_eq hfields.1 hfields.2, beq_self_eq_true,
        lookup_eq_none_of_notMem hnot]
      exact List.append_nil _
    · rw [if_neg hpart, beq_eq_false_iff_ne.2 (Ne.symm hpart)]
      rfl

/-- A plain file replaces no section. -/
theorem IsPlain.not_replacesSection (h : IsPlain layer) {entry : String × Json}
    (hentry : entry ∈ layer) (part : String) : ¬ReplacesSection part entry := by
  obtain ⟨fields, htable, -⟩ := h.table entry hentry
  rintro (⟨-, hvalue⟩ | ⟨i, rest, hplace⟩)
  · exact hvalue fields htable
  · rw [placeOf_of_isName (h.named entry hentry)] at hplace
    cases hplace

/-- What comes of a setting when the value that is written for it, if any, is laid over another. -/
def layWritten (part key : String) (layer : List (String × Json)) (below : Option Json) :
    Option Json :=
  (settingAt? part key (.object layer)).elim below fun value => lay below ([], value)

/-- A plain file lays what is written for a setting over it. -/
theorem IsPlain.foldl_sayings (h : IsPlain layer) (below : Option Json) :
    (sayings part key layer).foldl lay below = layWritten part key layer below := by
  rw [h.sayings_eq, layWritten]
  cases settingAt? part key (.object layer) <;> rfl

end SearchGateway.Settings
