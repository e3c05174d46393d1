import SearchGateway.Decimal.Notation
import SearchGateway.Search.Request
import SearchGateway.Text.Quoted

/-!
# Values of settings

A setting has a type, and its value converts to it from what a file or a variable holds. A text is
taken from any scalar; a count, and a switch that is written as a text, go through that text. What
does not convert is a `SettingsFault`.
-/

namespace SearchGateway

/-- What is wrong with a numeral. -/
inductive NumeralFault where
  | empty
  | invalidDigit
  | tooLarge

/-- The words for it. -/
def NumeralFault.describe : NumeralFault → String
  | empty => "cannot parse integer from empty string"
  | invalidDigit => "invalid digit found in string"
  | tooLarge => "number too large to fit in target type"

/-- Why settings cannot be used. -/
inductive SettingsFault where
  /-- The environment is none of those that there are files for. -/
  | unknownEnvironment
  | missingFile (name : String)
  /-- A file whose content makes no table. -/
  | unreadable (name : String)
  | missingField (name : String)
  /-- A value without the text or truth value that is needed. -/
  | inconvertible
  | wrongType (found : Json) (expected : String)
  /-- A section written as a list that ends too early. -/
  | tooFewItems (count : Nat) (expected : String)
  | badNumeral (fault : NumeralFault)
  | notTrueOrFalse
  | unknownFusion (name : String)
  /-- A fusion mode that is neither a text nor a table with one key. -/
  | fusionForm

namespace SettingsFault

/-- The kind of a value in messages. -/
def describeFound : Json → String
  | .null => "unit value"
  | .bool b => s!"boolean `{b}`"
  | .int n => s!"integer `{n}`"
  | .float x => "floating point `" ++ { Layout.plain with keepsFraction := true }.floatText x ++ "`"
  | .string s => "string " ++ Text.quoted s
  | .array _ => "sequence"
  | .object _ => "map"

/-- The message of a fault. -/
def message : SettingsFault → String
  | unknownEnvironment => "Failed to parse APP_ENVIRONMENT: Matching variant not found"
  | missingFile name => "configuration file " ++ Text.quoted name ++ " not found"
  | unreadable name => "configuration file " ++ Text.quoted name ++ " holds no table"
  | missingField name => "missing field `" ++ name ++ "`"
  | inconvertible => "the value does not convert to the type of the setting"
  | wrongType found expected =>
    "invalid type: " ++ describeFound found ++ ", expected " ++ expected
  | tooFewItems count expected => s!"invalid length {count}, expected {expected}"
  | badNumeral fault => fault.describe
  | notTrueOrFalse => "provided string was not `true` or `false`"
  | unknownFusion name => "enum FusionMode does not have variant constructor " ++ name
  | fusionForm =>
    "value of enum FusionMode should be represented by either string or table with exactly one key"

end SettingsFault

namespace Settings

/-- The text of a scalar. -/
def textOf : Json → Except SettingsFault String
  | .string s => .ok s
  | .bool b => .ok (toString b)
  | .int n => .ok (toString n)
  | .float x => .ok (Layout.plain.floatText x)
  | .null | .array _ | .object _ => .error .inconvertible

/-- A truth value: a number is true unless it is zero, and some words stand for it in any case. -/
def truthOf : Json → Except SettingsFault Bool
  | .bool b => .ok b
  | .int n => .ok (n != 0)
  | .float x => .ok (x != 0)
  | .string s =>
    let word := String.ofList (s.toList.map Char.toLower)
    if ["1", "true", "on", "yes"].contains word then .ok true
    else if ["0", "false", "off", "no"].contains word then .ok false
    else .error .inconvertible
  | .null | .array _ | .object _ => .error .inconvertible

/-- Reads the digits of a numeral from the left, up to the first fault. -/
def digitsBelow (limit : Nat) : Nat → List Char → Except NumeralFault Nat
  | n, [] => .ok n
  | n, c :: cs =>
    if !c.isDigit then .error .invalidDigit
    else
      let n := 10 * n + (c.toNat - '0'.toNat)
      if n < limit then digitsBelow limit n cs else .error .tooLarge

/-- A numeral below a limit, with or without a plus sign. -/
def numeralBelow (limit : Nat) (s : String) : Except NumeralFault Nat :=
  match s.toList with
  | [] => .error .empty
  | ['+'] => .error .invalidDigit
  | '+' :: digits => digitsBelow limit 0 digits
  | digits => digitsBelow limit 0 digits

/-- A count below a limit, by its text. -/
def countBelow (limit : Nat) (v : Json) : Except SettingsFault Nat := do
  (numeralBelow limit (← textOf v)).mapError .badNumeral

/-- A switch, by its text. -/
def switchOf (v : Json) : Except SettingsFault Bool := do
  match ← textOf v with
  | "true" => return true
  | "false" => return false
  | _ => throw .notTrueOrFalse

/-- A list of texts. -/
def textsOf : Json → Except SettingsFault (List String)
  | .array items => items.mapM textOf
  | v => .error (.wrongType v "a sequence")

/-- The fusion mode of a name in any case. -/
def fusionNamed (name : String) : Except SettingsFault FusionMode :=
  match FusionMode.ofName? (String.ofList (name.toList.map Char.toLower)) with
  | some mode => .ok mode
  | none => .error (.unknownFusion name)

/-- A fusion mode, by its name or as the only key of a table. -/
def fusionOf : Json → Except SettingsFault FusionMode
  | .string name => fusionNamed name
  | .object [(name, _)] => fusionNamed name
  | _ => .error .fusionForm

end Settings

end SearchGateway
