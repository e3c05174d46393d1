import SearchGateway.Decimal.Shortest

/-!
# JSON values

A value keeps integers apart from doubles, since both the text of a message and the acceptance of a
field depend on how a number was spelt. An object is a list of fields; `Json.ofEntries` builds one
from the entries of a text, in key order and with the last entry of a key, and look-up (`Json.get?`)
takes the first field of a name.
-/

namespace SearchGateway

/-- A JSON value. Integers lie between `-2 ^ 63` and `2 ^ 64 - 1` and doubles are finite wherever a
value is read from a text or built by `Json.ofFloat`. -/
inductive Json where
  | null
  | bool (b : Bool)
  | int (n : Int)
  | float (x : Float)
  | string (s : String)
  | array (items : List Json)
  | object (fields : List (String × Json))
  deriving Inhabited

namespace Json

mutual

/-- Equality of values: numbers of one kind compare by value, so the two zeros of a double are
equal, and an integer never equals a double. -/
def same : Json → Json → Bool
  | null, null => true
  | bool a, bool b => a == b
  | int a, int b => a == b
  | float a, float b => a == b
  | string a, string b => a == b
  | array a, array b => sameItems a b
  | object a, object b => sameFields a b
  | _, _ => false

/-- Equality of the items of two arrays. -/
def sameItems : List Json → List Json → Bool
  | [], [] => true
  | a :: as, b :: bs => same a b && sameItems as bs
  | _, _ => false

/-- Equality of the fields of two objects. -/
def sameFields : List (String × Json) → List (String × Json) → Bool
  | [], [] => true
  | (k, a) :: as, (l, b) :: bs => k == l && same a b && sameFields as bs
  | _, _ => false

end

instance : BEq Json := ⟨same⟩

/-- The value of the first field with the given name; none where the value is no object. -/
def get? (key : String) : Json → Option Json
  | object fields => fields.lookup key
  | _ => none

/-- The items of an array. -/
def array? : Json → Option (List Json)
  | array items => some items
  | _ => none

/-- The text of a string. -/
def string? : Json → Option String
  | string s => some s
  | _ => none

/-- Whether an integer lies within 64 bits with a sign. -/
def isSigned64 (n : Int) : Bool :=
  decide (-0x8000000000000000 ≤ n) && decide (n < 0x8000000000000000)

/-- Whether the value is `null`. -/
def isNull : Json → Bool
  | null => true
  | _ => false

/-- The double nearest to a number. -/
def float? : Json → Option Float
  | int n => some (Decimal.floatOfInt n)
  | float x => some x
  | _ => none

/-- An integer literal within 32 unsigned bits. -/
def word32? : Json → Option UInt32
  | int n => if 0 ≤ n ∧ n < UInt32.size then some (.ofNat n.toNat) else none
  | _ => none

/-- Loose truth: `null`, `false`, numeric zero and the empty string count as absent; an array or an
object never does. -/
def isSet : Json → Bool
  | null => false
  | bool b => b
  | int n => n != 0
  | float x => x != 0
  | string s => !s.isEmpty
  | array _ | object _ => true

/-- Whether the value is neither an array nor an object. -/
def isScalar : Json → Bool
  | array _ | object _ => false
  | _ => true

/-- A number, `null` where the double is not finite. -/
def ofFloat (x : Float) : Json :=
  if x.isFinite then float x else null

/-- A single-precision number, `null` where it is not finite: the number is that of the shortest
decimal that reads back as the single. -/
def ofSingle (x : Float32) : Json :=
  if x.isFinite then float (Decimal.ofSingle x).toFloat else null

/-- A value or `null`. -/
def ofOption {α : Type} (encode : α → Json) : Option α → Json
  | some a => encode a
  | none => null

/-- A 32-bit count. -/
def ofWord32 (n : UInt32) : Json := int n.toNat

/-- Keeps the last of each run of entries with one key. -/
def lastOfEach : List (String × Json) → List (String × Json)
  | [] => []
  | [e] => [e]
  | e :: e' :: rest => if e.1 = e'.1 then lastOfEach (e' :: rest) else e :: lastOfEach (e' :: rest)

/-- The object of a list of entries: one field a key, in key order, the last entry of a key. -/
def ofEntries (entries : List (String × Json)) : Json :=
  object (lastOfEach (entries.mergeSort fun a b => decide (a.1 ≤ b.1)))

/-- The fields of an object, none for another value. -/
def fields : Json → List (String × Json)
  | object fs => fs
  | _ => []

end Json

end SearchGateway
