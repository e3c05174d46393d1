import SearchGateway.Json.Basic
import SearchGateway.Text.LowerCase

/-!
# Layers of settings

Settings come in layers, the later ones overriding the earlier ones key by key. A layer is a list of
entries whose keys are places in a tree: `search.max_match_count`, `application.allowed_origins[0]`.
Putting a table at a place merges it with the table that is there; any other value replaces what is
there. A key that is not written as a place names a field of the root. All names are brought to
lower case, except in tables inside of lists.
-/

namespace SearchGateway.Settings

/-- A step into a tree. -/
inductive Step where
  | field (name : String)
  /-- A position in a list; negative ones count from the end. -/
  | position (i : Int)
  deriving DecidableEq, Repr

/-! ## Places as texts -/

/-- What the name of a field is written with. -/
def isNameChar (c : Char) : Bool := c.isAlphanum || c == '_' || c == '-' || c == ' '

/-- A text without the blanks at its ends. -/
def unpadded (cs : List Char) : List Char :=
  let isPad (c : Char) : Bool := c == ' ' || c == '\t'
  ((cs.dropWhile isPad).reverse.dropWhile isPad).reverse

/-- The name of a field, in lower case. -/
def Step.named (name : List Char) : Step := .field (Text.lowerCase (String.ofList name))

/-- A position between its brackets, within 64 signed bits. Blanks may stand around it. -/
def position? (cs : List Char) : Option Int := do
  let (negative, digits) := match unpadded cs with
    | '-' :: digits => (true, digits)
    | digits => (false, digits)
  if digits.isEmpty ∨ !digits.all (·.isDigit) then none
  else
    let n := digits.foldl (fun n c => 10 * n + (c.toNat - '0'.toNat)) 0
    let i : Int := if negative then -n else n
    if Json.isSigned64 i then some i else none

/-- The steps behind the first one. -/
def furtherSteps? : (bound : Nat) → List Char → Option (List Step)
  | _, [] => some []
  | 0, _ => none
  | bound + 1, '.' :: rest =>
    let name := rest.takeWhile isNameChar
    if name.isEmpty then none
    else (furtherSteps? bound (rest.drop name.length)).map (Step.named name :: ·)
  | bound + 1, '[' :: rest =>
    let inner := rest.takeWhile (· != ']')
    if rest.length = inner.length then none
    else do
      let i ← position? inner
      (furtherSteps? bound (rest.drop (inner.length + 1))).map (.position i :: ·)
  | _, _ => none

/-- The place that a key names. -/
def placeOf (key : String) : List Step :=
  let cs := key.toList
  let name := cs.takeWhile isNameChar
  let steps? :=
    if name.isEmpty then none
    else (furtherSteps? cs.length (cs.drop name.length)).map (Step.named name :: ·)
  steps?.getD [Step.named cs]

/-! ## Putting a value at a place -/

/-- The fields with the field of the given name replaced, or added at the end. -/
def setField (fields : List (String × Json)) (name : String) (value : Json) :
    List (String × Json) :=
  match fields with
  | [] => [(name, value)]
  | (k, v) :: rest =>
    if k = name then (k, value) :: rest else (k, v) :: setField rest name value

/-- A field that was set has its new value. -/
theorem lookup_setField_self (fields : List (String × Json)) (name : String) (value : Json) :
    (setField fields name value).lookup name = some value := by
  induction fields with
  | nil => simp [setField]
  | cons field rest ih =>
    obtain ⟨k, v⟩ := field
    by_cases h : k = name
    · simp [setField, h]
    · have h' : (name == k) = false := by simp [Ne.symm h]
      simp [setField, h, List.lookup_cons, h', ih]

/-- Setting a field leaves the others as they are. -/
theorem lookup_setField_of_ne (fields : List (String × Json)) {name other : String} (value : Json)
    (h : other ≠ name) : (setField fields name value).lookup other = fields.lookup other := by
  have hne : (other == name) = false := by simp [h]
  induction fields with
  | nil => simp [setField, List.lookup_cons, hne]
  | cons field rest ih =>
    obtain ⟨k, v⟩ := field
    by_cases hk : k = name
    · subst hk
      simp [setField, List.lookup_cons, hne]
    · simp [setField, hk, List.lookup_cons, ih]

mutual

/-- Puts a value into a field; a tree that is no table becomes one. -/
def putField (root : Json) (name : String) : Json → Json
  | .object incoming =>
    let target := (root.fields.lookup name).getD (.object [])
    .object (setField root.fields name (putFields target incoming))
  | value => .object (setField root.fields name value)

/-- Puts values into fields, one after the other. -/
def putFields (root : Json) : List (String × Json) → Json
  | [] => root
  | (name, value) :: rest => putFields (putField root (Text.lowerCase name) value) rest

end

/-- Changes the part of a tree that a step leads to; a tree that has no such part gets one. -/
def Step.modify (change : Json → Json) (root : Json) : Step → Json
  | .field name =>
    .object (setField root.fields name (change ((root.fields.lookup name).getD .null)))
  | .position i =>
    let items := root.array?.getD []
    let index := if i < 0 then (items.length + i).toNat else i.toNat
    let padded := items ++ List.replicate (index + 1 - items.length) .null
    .array (padded.modify index change)

/-- Puts a value at a place. -/
def putAt (value : Json) : List Step → Json → Json
  | [], _ => value
  | [.field name], root => putField root name value
  | step :: rest, root => step.modify (putAt value rest) root

/-- Lays entries over a tree. -/
def overlay (root : Json) (entries : List (String × Json)) : Json :=
  entries.foldl (fun root (key, value) => putAt value (placeOf key) root) root

/-- The tree of layers, the first one lowest. -/
def merged (layers : List (List (String × Json))) : Json := layers.foldl overlay (.object [])

end SearchGateway.Settings
