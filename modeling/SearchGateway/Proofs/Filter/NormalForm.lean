import SearchGateway.Filter.Normal
import SearchGateway.Proofs.Filter.Reading

/-!
# The normal form says what the raw filter says

Reading a filter and bringing it to its normal form are two walks over the same value, and each
chooses one of two lists. They choose the same one: the normal form has no list in the older
notation (`legacyMembers?_normalForm`), and its list is the one that the raw filter is read from
(`currentMembers?_normalForm`). So a normal form is its own normal form, and it is read as the raw
filter is.
-/

namespace SearchGateway.Filter

/-- A value that counts as absent has no fields. -/
theorem get?_of_not_isSet {v : Json} (h : v.isSet = false) (key : String) : v.get? key = none := by
  cases v with
  | object fields => simp [Json.isSet] at h
  | null | bool | int | float | string | array => rfl

/-- A list of members in the current notation has no list in the older one. -/
theorem legacyMembers?_ofMembers (members : List Json) :
    legacyMembers? (ofMembers members) = none := rfl

/-- The list of a list of members in the current notation is that list. -/
theorem currentMembers?_ofMembers (members : List Json) :
    currentMembers? (ofMembers members) = some members := rfl

/-- A list of members in the current notation is its own normal form. -/
theorem normalForm_ofMembers (members : List Json) :
    normalForm (ofMembers members) = ofMembers members := rfl

/-- A value without a list in either notation is its own normal form, unless it counts as
absent. -/
theorem normalForm_of_no_members {v : Json} (hset : v.isSet = true)
    (hlegacy : legacyMembers? v = none) (hcurrent : currentMembers? v = none) :
    normalForm v = v := by
  simp only [normalForm, hset, hlegacy, hcurrent, if_true]

/-- The three values that a normal form can have. -/
theorem normalForm_cases (v : Json) :
    (∃ members, (legacyMembers? v).or (currentMembers? v) = some members ∧
        normalForm v = ofMembers members) ∨
      (legacyMembers? v = none ∧ currentMembers? v = none ∧
        (normalForm v = unrestricted ∨ v.isSet = true ∧ normalForm v = v)) := by
  cases hset : v.isSet with
  | false =>
    have hlegacy : legacyMembers? v = none := by simp [legacyMembers?, get?_of_not_isSet hset]
    have hcurrent : currentMembers? v = none := by simp [currentMembers?, get?_of_not_isSet hset]
    exact .inr ⟨hlegacy, hcurrent, .inl (by simp [normalForm, hset])⟩
  | true =>
    cases hlegacy : legacyMembers? v with
    | some members => exact .inl ⟨members, rfl, by simp [normalForm, hset, hlegacy]⟩
    | none =>
      cases hcurrent : currentMembers? v with
      | some members => exact .inl ⟨members, rfl, by simp [normalForm, hset, hlegacy, hcurrent]⟩
      | none =>
        exact .inr ⟨rfl, rfl, .inr ⟨rfl, normalForm_of_no_members hset hlegacy hcurrent⟩⟩

/-- No normal form has a list in the older notation. -/
theorem legacyMembers?_normalForm (v : Json) : legacyMembers? (normalForm v) = none := by
  rcases normalForm_cases v with ⟨members, -, h⟩ | ⟨hlegacy, -, h | ⟨-, h⟩⟩
  · rw [h]
    exact legacyMembers?_ofMembers members
  · rw [h]
    rfl
  · rw [h]
    exact hlegacy

/-- The list of a normal form is the one that the raw filter is read from. -/
theorem currentMembers?_normalForm (v : Json) :
    currentMembers? (normalForm v) = (legacyMembers? v).or (currentMembers? v) := by
  rcases normalForm_cases v with ⟨members, hmembers, h⟩ | ⟨hlegacy, hcurrent, h | ⟨-, h⟩⟩
  · rw [h, hmembers]
    exact currentMembers?_ofMembers members
  · rw [h, hlegacy, hcurrent]
    rfl
  · rw [h, hlegacy, hcurrent]
    rfl

/-- A normal form is its own normal form. -/
theorem normalForm_normalForm (v : Json) : normalForm (normalForm v) = normalForm v := by
  rcases normalForm_cases v with ⟨members, -, h⟩ | ⟨hlegacy, hcurrent, h | ⟨hset, h⟩⟩
  · rw [h]
    exact normalForm_ofMembers members
  · rw [h]
    rfl
  · rw [h]
    exact h

/-- The normal form of a filter that can be read is read as the same expression. -/
theorem ofJson_normalForm {v : Json} {e : Option Expression} (h : Expression.ofJson v = .ok e) :
    Expression.ofJson (normalForm v) = .ok e := by
  obtain ⟨legacy, current, hlegacy, hcurrent, rfl⟩ := Expression.ofJson_eq_ok_iff.1 h
  refine Expression.ofJson_eq_ok_iff.2 ⟨none, legacy.or current, ?_, ?_, by simp⟩
  · rw [legacyMembers?_normalForm]
    exact .none
  · rw [currentMembers?_normalForm]
    generalize legacyMembers? v = items at hlegacy
    cases hlegacy with
    | none => simpa using hcurrent
    | some hmembers => exact .some hmembers

end SearchGateway.Filter
