import SearchGateway.Text.LowerCase

/-!
# Small letters of ASCII

The tables of letters agree with ASCII: a text of ASCII in lower case has the small letters of core
(`lowerCase_of_ascii`).
-/

namespace SearchGateway.Text

/-- No letter of ASCII stands in a run of capitals and small letters. -/
theorem alternatingLetters_find?_ascii : ∀ n < 128, (alternatingLetters.find? n).isNone = true := by
  unfold alternatingLetters CodePoints.ofText words
  rw [String.toList_ofList]
  decide +kernel

/-- The capitals of ASCII have their small letters. -/
theorem smallLetters_image?_ascii : ∀ n < 128,
    smallLetters.image? n = if 65 ≤ n ∧ n ≤ 90 then some [n + 32] else none := by
  unfold smallLetters CodePointMap.ofText words
  rw [String.toList_ofList]
  decide +kernel

/-- A character of ASCII has the small letter of core. -/
theorem map_smallLetter_of_ascii {c : Char} (hc : c.toNat < 128) :
    (smallLetter c.toNat).map Char.ofNat = [c.toLower] := by
  have hletter : smallLetter c.toNat =
      [if 65 ≤ c.toNat ∧ c.toNat ≤ 90 then c.toNat + 32 else c.toNat] := by
    rw [smallLetter, Option.isNone_iff_eq_none.1 (alternatingLetters_find?_ascii _ hc),
      smallLetters_image?_ascii _ hc]
    split <;> rfl
  have hsame : ∀ n < 128,
      Char.ofNat (if 65 ≤ n ∧ n ≤ 90 then n + 32 else n) = (Char.ofNat n).toLower := by decide
  rw [hletter, List.map_singleton, hsame _ hc, Char.ofNat_toNat]

/-- A text of ASCII in lower case has the small letters of core. -/
theorem lowerCase_of_ascii {s : String} (hs : ∀ c ∈ s.toList, c.toNat < 128) :
    lowerCase s = .ofList (s.toList.map Char.toLower) := by
  have hfrom : ∀ cs : List Char, (∀ c ∈ cs, c.toNat < 128) → ∀ before,
      lowerCaseFrom before cs = cs.map Char.toLower := by
    intro cs hcs
    induction cs with
    | nil => exact fun _ => rfl
    | cons c cs ih =>
      intro before
      obtain ⟨hc, hcs⟩ := List.forall_mem_cons.1 hcs
      have hsigma : c ≠ 'Σ' := by
        rintro rfl
        exact absurd hc (by decide)
      rw [lowerCaseFrom, if_neg hsigma, map_smallLetter_of_ascii hc, ih hcs]
      rfl
  rw [lowerCase, hfrom s.toList hs]

end SearchGateway.Text
