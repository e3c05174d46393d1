import Mathlib.Data.List.Basic
import SearchGateway.Proofs.Json.Skipping

/-!
# The texts of the values in a container

A container is cut into the texts of its values without reading them: `members?` gives the members
of an object with the texts of their values, `items?` the texts of the items of an array. What is
cut so is stepped over, not read, and a text that is stepped over need not be readable.

A text that is cut out is read in its place just as it is read on its own (`value?`), provided that
as many containers may be opened (`reads_iff_value?`). This is how the spelling of one value in a
container can be looked at apart from the others.
-/

namespace SearchGateway.Json

variable {t r v : Bytes} {a : Json} {first : Bool} {n m : Nat} {shape : Shape}

/-! ## Cutting -/

/-- The text of the value at the start of the input, without the blanks before it, and what follows
the value. -/
def valueText? (t : Bytes) : Option (Bytes × Bytes) := do
  let rest ← (skipValue t).toOption
  return (← (skipBlanks t).dropSuffix? rest, rest)

/-- The members of an object behind its brace, with the texts of their values, and what follows the
object. -/
def takeMembers : (bound : Nat) → (first : Bool) → Bytes → Option (List (String × Bytes) × Bytes)
  | 0, _, _ => none
  | bound + 1, first, t =>
    match nextKey first t with
    | .error _ => none
    | .ok (.stop rest) => some ([], rest)
    | .ok (.item rest) => do
      let (key, rest) ← (scanKey rest).toOption
      let (v, rest) ← valueText? rest
      let (members, rest) ← takeMembers bound false rest
      return ((key, v) :: members, rest)

/-- The texts of the items of an array behind its bracket, and what follows the array. -/
def takeItems : (bound : Nat) → (first : Bool) → Bytes → Option (List Bytes × Bytes)
  | 0, _, _ => none
  | bound + 1, first, t =>
    match nextItem first t with
    | .error _ => none
    | .ok (.stop rest) => some ([], rest)
    | .ok (.item rest) => do
      let (v, rest) ← valueText? rest
      let (items, rest) ← takeItems bound false rest
      return (v :: items, rest)

/-- What stands between two bytes in a text that is otherwise blank. -/
def within? {α : Type} (b : UInt8) (take : Bytes → Option (α × Bytes)) (text : Bytes) : Option α :=
  match skipBlanks text with
  | [] => none
  | c :: rest =>
    if c = b then (take rest).bind fun (a, rest) => if skipBlanks rest = [] then some a else none
    else none

/-- The members of the text of an object, with the texts of their values. -/
def members? (text : Bytes) : Option (List (String × Bytes)) :=
  within? 0x7B (takeMembers text.length true) text

/-- The texts of the items of the text of an array. -/
def items? (text : Bytes) : Option (List Bytes) := within? 0x5B (takeItems text.length true) text

/-- The value that a text holds, blanks apart, if so many containers may be opened. -/
def value? (n : Nat) (text : Bytes) : Option Json :=
  match readAny (2 * text.length) (n + 1) text with
  | .ok (a, rest) => if skipBlanks rest = [] then some a else none
  | .error _ => none

/-! ## What is cut -/

/-- The text of a value stands behind blanks, and is stepped over with them. -/
theorem valueText?_eq_some_iff :
    valueText? t = some (v, r) ↔ skipValue t = .ok r ∧ skipBlanks t = v ++ r := by
  simp only [valueText?, bind, Option.bind_eq_some_iff, List.dropSuffix?_eq_some_iff, beq_iff_eq,
    pure, Option.some.injEq, Prod.mk.injEq, toOption_eq_some_iff]
  grind

/-- The members of an object are at their end, or there is a first one. -/
theorem takeMembers_cases {members : List (String × Bytes)}
    (h : takeMembers m first t = some (members, r)) :
    (nextKey first t = .ok (.stop r) ∧ members = []) ∨
      ∃ bound key v rest t₁ t₂ t₃, m = bound + 1 ∧ nextKey first t = .ok (.item t₁) ∧
        scanKey t₁ = .ok (key, t₂) ∧ valueText? t₂ = some (v, t₃) ∧
        takeMembers bound false t₃ = some (rest, r) ∧ members = (key, v) :: rest := by
  cases m with
  | zero => cases h
  | succ bound =>
    rw [takeMembers] at h
    split at h
    · cases h
    · next hnext =>
      cases h
      exact .inl ⟨hnext, rfl⟩
    · next hnext =>
      simp only [bind, Option.bind_eq_some_iff, toOption_eq_some_iff, Prod.exists, pure,
        Option.some.injEq, Prod.mk.injEq] at h
      obtain ⟨key, t₂, hkey, v, t₃, hvalue, rest, r', hrest, rfl, rfl⟩ := h
      exact .inr ⟨bound, key, v, rest, _, t₂, t₃, rfl, hnext, hkey, hvalue, hrest, rfl⟩

/-- The items of an array are at their end, or there is a first one. -/
theorem takeItems_cases {items : List Bytes} (h : takeItems m first t = some (items, r)) :
    (nextItem first t = .ok (.stop r) ∧ items = []) ∨
      ∃ bound v rest t₁ t₂, m = bound + 1 ∧ nextItem first t = .ok (.item t₁) ∧
        valueText? t₁ = some (v, t₂) ∧ takeItems bound false t₂ = some (rest, r) ∧
        items = v :: rest := by
  cases m with
  | zero => cases h
  | succ bound =>
    rw [takeItems] at h
    split at h
    · cases h
    · next hnext =>
      cases h
      exact .inl ⟨hnext, rfl⟩
    · next hnext =>
      simp only [bind, Option.bind_eq_some_iff, Prod.exists, pure, Option.some.injEq,
        Prod.mk.injEq] at h
      obtain ⟨v, t₂, hvalue, rest, r', hrest, rfl, rfl⟩ := h
      exact .inr ⟨bound, v, rest, _, t₂, rfl, hnext, hvalue, hrest, rfl⟩

/-- Behind a member, the text goes on with no number. -/
theorem endsNumber_of_takeMembers {members : List (String × Bytes)}
    (h : takeMembers m false t = some (members, r)) : EndsNumber t := by
  rcases takeMembers_cases h with ⟨hnext, -⟩ | ⟨_, _, _, _, _, _, _, -, hnext, -⟩ <;>
    exact endsNumber_of_nextKey hnext

/-- Behind an item, the text goes on with no number. -/
theorem endsNumber_of_takeItems {items : List Bytes}
    (h : takeItems m false t = some (items, r)) : EndsNumber t := by
  rcases takeItems_cases h with ⟨hnext, -⟩ | ⟨_, _, _, _, _, -, hnext, -⟩ <;>
    exact endsNumber_of_nextItem hnext

/-- What is cut lies between two brackets, in a text that is blank otherwise. -/
theorem within?_eq_some_iff {α : Type} {b : UInt8} {take : Bytes → Option (α × Bytes)} {c : α} :
    within? b take t = some c ↔
      ∃ rest r, skipBlanks t = b :: rest ∧ take rest = some (c, r) ∧ skipBlanks r = [] := by
  unfold within?
  split
  · next h => simp [h]
  · next d rest h =>
    rw [h]
    split_ifs with hd
    · subst hd
      simp only [Option.bind_eq_some_iff, Prod.exists, Option.ite_none_right_eq_some,
        Option.some.injEq, List.cons.injEq, true_and]
      grind
    · simp [hd]

/-! ## Reading what is cut -/

/-- Blanks, and then no number, do not go on with a number. -/
theorem endsNumber_append {r' : Bytes} (h : skipBlanks r = []) (hr' : EndsNumber r') :
    EndsNumber (r ++ r') := by
  cases r with
  | nil => exact hr'
  | cons b r =>
    exact endsNumber_of_isBlankByte (List.dropWhile_eq_nil_iff.1 h b List.mem_cons_self) _

/-- A value is read of a text where it is read behind the blanks at its start. -/
theorem reads_value_of_skipBlanks {t' : Bytes} (h : Reads n .value t a r)
    (ht : skipBlanks t = skipBlanks t') : Reads n .value t' a r := by
  cases h with
  | scalar hblanks h => exact .scalar (ht.symm.trans hblanks) h
  | array hblanks h => exact .array (ht.symm.trans hblanks) h
  | object hblanks h => exact .object (ht.symm.trans hblanks) h

/-- A value is read as far as a bound allows that goes with the length. -/
theorem readAny_eq_ok_iff {bound : Nat} (hbound : 2 * t.length ≤ bound) :
    readAny bound (n + 1) t = .ok (a, r) ↔ Reads n .value t a r :=
  ⟨reads_of_read (g := .value), fun h => h.read_eq bound hbound⟩

/-- A text holds a value where the value is read of it up to blanks. -/
theorem value?_eq_some_iff :
    value? n v = some a ↔ ∃ r, Reads n .value v a r ∧ skipBlanks r = [] := by
  simp only [← readAny_eq_ok_iff (le_refl (2 * v.length))]
  unfold value?
  grind

/-- A text that is cut out is read in its place as it is on its own. -/
theorem reads_iff_value? {r' : Bytes} (h : valueText? t = some (v, r)) (hr : EndsNumber r) :
    Reads n .value t a r' ↔ r' = r ∧ value? n v = some a := by
  obtain ⟨hskip, htext⟩ := valueText?_eq_some_iff.1 h
  rw [value?_eq_some_iff]
  constructor
  · intro hread
    obtain rfl : r' = r := Except.ok.inj (hread.skipValue_eq.symm.trans hskip)
    have hread := reads_value_of_skipBlanks hread (skipBlanks_skipBlanks t).symm
    rw [htext] at hread
    obtain ⟨u, depth, hu, hdepth, htakes⟩ := hread.exists_text
    obtain rfl := List.append_cancel_right hu
    have halone := htakes.reads n [] hdepth trivial
    rw [List.append_nil] at halone
    exact ⟨rfl, [], halone, rfl⟩
  · rintro ⟨rfl, blanks, hread, hblanks⟩
    obtain ⟨u, depth, rfl, hdepth, htakes⟩ := hread.exists_text
    have hread := htakes.reads n (blanks ++ r') hdepth (endsNumber_append hblanks hr)
    rw [← List.append_assoc, ← htext] at hread
    have hread := reads_value_of_skipBlanks hread (skipBlanks_skipBlanks t)
    -- stepping over the value tells that it is not followed by blanks of its own
    rwa [Except.ok.inj (hread.skipValue_eq.symm.trans hskip)] at hread

/-- A text holds its value wherever as many containers may be opened as are nested in it. -/
theorem value?_of_nesting_le (h : value? m v = some a) (hn : nesting v ≤ n) :
    value? n v = some a := by
  obtain ⟨blanks, hread, hblanks⟩ := value?_eq_some_iff.1 h
  obtain ⟨u, depth, rfl, -, htakes⟩ := hread.exists_text
  have hends : EndsNumber blanks := by
    simpa using endsNumber_append hblanks (show EndsNumber [] from trivial)
  have hnesting : depth ≤ nesting (u ++ blanks) := by
    have := htakes.nesting_eq 0 blanks hends
    simp only [Goal.level, Nat.zero_add] at this
    rw [nesting, this]
    exact le_max_left ..
  exact value?_eq_some_iff.2 ⟨blanks, htakes.reads n blanks (hnesting.trans hn) hends, hblanks⟩

/-- What is read of a whole text is what is read of it up to blanks. -/
theorem toOption_read : (Json.read shape v).toOption =
    (readShape (4 * v.length + 8) depthLimit shape v).toOption.bind fun (a, rest) =>
      if skipBlanks rest = [] then some a else none := by
  unfold Json.read
  cases readShape (4 * v.length + 8) depthLimit shape v with
  | error f => rfl
  | ok read =>
    obtain ⟨a, rest⟩ := read
    simp only [Except.toOption, Option.bind_some]
    cases skipBlanks rest <;> simp

/-- A text that is read for any value holds it, with one container less than the limit. -/
theorem value?_of_read? (h : read? .any v = some a) : value? (depthLimit - 1) v = some a := by
  rw [read?, toOption_read, Option.bind_eq_some_iff] at h
  obtain ⟨⟨a, rest⟩, hread, h⟩ := h
  dsimp only at h
  split_ifs at h with hblanks
  cases h
  rw [toOption_eq_some_iff, readShape] at hread
  exact value?_eq_some_iff.2 ⟨rest, (readAny_eq_ok_iff (by omega)).1 hread, hblanks⟩

/-- Members that hold values are read. -/
theorem reads_members {members : List (String × Bytes)} {entries : List (String × Json)}
    (h : takeMembers m first t = some (members, r))
    (hvalues : List.Forall₂ (fun member entry => member.1 = entry.1 ∧
      value? n member.2 = some entry.2) members entries) (seen : List (String × Json)) :
    Reads n (.members first seen) t (ofEntries (seen.reverse ++ entries)) r := by
  induction hvalues generalizing m first t seen with
  | nil =>
    rcases takeMembers_cases h with ⟨hnext, -⟩ | ⟨_, _, _, _, _, _, _, -, -, -, -, -, hmembers⟩
    · rw [List.append_nil]
      exact .membersEnd hnext
    · cases hmembers
  | @cons member entry members entries hmember hmembers ih =>
    obtain ⟨key, v⟩ := entry
    rcases takeMembers_cases h with ⟨-, hmembers⟩ |
      ⟨bound, key', text, rest, t₁, t₂, t₃, -, hnext, hkey, hvalue, hrest, hcons⟩
    · cases hmembers
    · cases hcons
      obtain ⟨rfl, hv⟩ := hmember
      have hread := (reads_iff_value? hvalue (endsNumber_of_takeMembers hrest)).2 ⟨rfl, hv⟩
      have := ih hrest ((key', v) :: seen)
      rw [List.reverse_cons, List.append_assoc] at this
      exact .member hnext hkey hread this

/-- The text of an object whose members hold values holds the object of the values. -/
theorem value?_of_members? {members : List (String × Bytes)} {entries : List (String × Json)}
    (h : members? v = some members)
    (hvalues : List.Forall₂ (fun member entry => member.1 = entry.1 ∧
      value? n member.2 = some entry.2) members entries) :
    value? (n + 1) v = some (ofEntries entries) := by
  obtain ⟨rest, r, hbrace, hmembers, hblanks⟩ := within?_eq_some_iff.1 h
  exact value?_eq_some_iff.2 ⟨r, .object hbrace (reads_members hmembers hvalues []), hblanks⟩

end SearchGateway.Json
