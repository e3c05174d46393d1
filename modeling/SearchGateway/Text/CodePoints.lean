import SearchGateway.Text.Parts

/-!
# Tables of code points

Properties of characters are kept as runs of code points in ascending order, and maps of characters
as runs with a value. A table is written as a text of words: `378-379` is a run, `37E` a single code
point. Behind an equals sign stands the number of a class in decimal, `300-314=230`, or the images
under a map: `41-5A=61` maps a run to the code points from 61 on, and `B2=32,33,20.301` maps three
successive code points, the last one to a sequence.
-/

namespace SearchGateway.Text

/-- A run of code points that share a value. -/
structure Run (α : Type) where
  first : Nat
  last : Nat
  value : α

/-- Runs in ascending order. -/
abbrev Runs (α : Type) := Array (Run α)

/-- The run that holds a code point, among those from `low` up to `high`. -/
def Runs.findBetween? {α : Type} (runs : Runs α) (n low high : Nat) : Option (Run α) :=
  if low < high then
    let middle := (low + high) / 2
    match runs[middle]? with
    | none => none
    | some run =>
      if n < run.first then runs.findBetween? n low middle
      else if run.last < n then runs.findBetween? n (middle + 1) high
      else some run
  else none
termination_by high - low

/-- The run that holds a code point. -/
def Runs.find? {α : Type} (runs : Runs α) (n : Nat) : Option (Run α) :=
  runs.findBetween? n 0 runs.size

/-! ## Tables as texts -/

/-- The value of a digit below 16, in either case. -/
def hexDigit? (c : Char) : Option Nat :=
  if c.isDigit then some (c.toNat - '0'.toNat)
  else if 'a' ≤ c ∧ c ≤ 'f' then some (c.toNat - 'a'.toNat + 10)
  else if 'A' ≤ c ∧ c ≤ 'F' then some (c.toNat - 'A'.toNat + 10)
  else none

/-- The number that digits of the given base spell; no digits spell zero. -/
def numeral? (base : Nat) (digits : List Char) : Option Nat :=
  digits.foldl (fun n c => do
    let d ← hexDigit? c
    if d < base then some ((← n) * base + d) else none) (some 0)

/-- A code point in hexadecimal. -/
def codePoint? (cs : List Char) : Option Nat := numeral? 16 cs

/-- The words of a text. -/
def words (text : String) : List (List Char) :=
  (splitOnAny (fun c => c == ' ' || c == '\n') text.toList).filter (!·.isEmpty)

/-- First and last code point of a run. -/
def bounds? (cs : List Char) : Option (Nat × Nat) :=
  match splitOnAny (· == '-') cs with
  | [single] => (codePoint? single).map fun n => (n, n)
  | [first, last] => do return (← codePoint? first, ← codePoint? last)
  | _ => none

/-- A run without a value. -/
def Run.bare? (word : List Char) : Option (Run Unit) :=
  (bounds? word).map fun (first, last) => ⟨first, last, ()⟩

/-- A set of code points. -/
abbrev CodePoints := Runs Unit

/-- The set that a text lists. -/
def CodePoints.ofText (text : String) : CodePoints := ((words text).filterMap Run.bare?).toArray

/-- Whether a character is in a set. -/
def CodePoints.contains (set : CodePoints) (c : Char) : Bool := (set.find? c.toNat).isSome

/-! ## Classes -/

/-- Code points by the number of their class. -/
abbrev CodePointClasses := Runs Nat

/-- A run with its class. -/
def Run.classed? (word : List Char) : Option (Run Nat) :=
  match splitOnAny (· == '=') word with
  | [bounds, number] => do
    let (first, last) ← bounds? bounds
    return ⟨first, last, ← numeral? 10 number⟩
  | _ => none

/-- The classes that a text lists. -/
def CodePointClasses.ofText (text : String) : CodePointClasses :=
  ((words text).filterMap Run.classed?).toArray

/-- The class of a character, zero where none is listed. -/
def CodePointClasses.classOf (classes : CodePointClasses) (c : Char) : Nat :=
  ((classes.find? c.toNat).map (·.value)).getD 0

/-! ## Maps -/

/-- A map from code points to sequences of them. A run lists the images of its code points in order;
where it lists a single one, that image moves along with the code point. -/
abbrev CodePointMap := Runs (List (List Nat))

/-- A sequence of code points. -/
def sequence? (cs : List Char) : Option (List Nat) :=
  (splitOnAny (· == '.') cs).mapM codePoint?

/-- A run with its images. -/
def Run.mapped? (word : List Char) : Option (Run (List (List Nat))) :=
  match splitOnAny (· == '=') word with
  | [bounds, images] => do
    let (first, last) ← bounds? bounds
    let images ← (splitOnAny (· == ',') images).mapM sequence?
    return ⟨first, max last (first + images.length - 1), images⟩
  | _ => none

/-- The image of a code point in a run. -/
def Run.image (run : Run (List (List Nat))) (n : Nat) : List Nat :=
  run.value[n - run.first]?.getD ((run.value.headD []).map (· + (n - run.first)))

/-- The map that a text lists. -/
def CodePointMap.ofText (text : String) : CodePointMap :=
  ((words text).filterMap Run.mapped?).toArray

/-- The image of a code point. -/
def CodePointMap.image? (map : CodePointMap) (n : Nat) : Option (List Nat) :=
  (map.find? n).map (·.image n)

/-- The code points of a map with their images. -/
def CodePointMap.entries (map : CodePointMap) : List (Nat × List Nat) :=
  map.toList.flatMap fun run =>
    (List.range (run.last + 1 - run.first)).map fun i => (run.first + i, run.image (run.first + i))

end SearchGateway.Text
