/-!
# Timestamps

A point in time as rows spell it: a date, a time of day to the nanosecond and an offset from UTC.
`Timestamp.ofText?` reads the spellings of RFC 3339, `Timestamp.text` writes one of them: `T`
between date and time, no zeros at the end of a fraction, `Z` for offset zero. Both keep the local
date and time and the offset.

A leap second stands for the last nanosecond before it. It is accepted only where it can occur: at
the end of the last UTC day of a month.
-/

namespace SearchGateway

/-- A year of the Gregorian calendar with a 29th of February. -/
def isLeapYear (year : Nat) : Bool :=
  year % 4 == 0 && (year % 100 != 0 || year % 400 == 0)

/-- The number of days of a month. -/
def daysInMonth (year month : Nat) : Nat :=
  if month = 2 then if isLeapYear year then 29 else 28
  else if month = 4 ∨ month = 6 ∨ month = 9 ∨ month = 11 then 30
  else 31

/-- A date and time of day, with the offset of its clock. -/
structure Timestamp where
  year : Nat
  month : Nat
  day : Nat
  hour : Nat
  minute : Nat
  second : Nat
  nanosecond : Nat
  /-- Minutes east of UTC. -/
  offset : Int
  year_lt : year < 10000
  month_mem : 1 ≤ month ∧ month ≤ 12
  day_mem : 1 ≤ day ∧ day ≤ daysInMonth year month
  time_lt : hour < 24 ∧ minute < 60 ∧ second < 60 ∧ nanosecond < 1000000000
  offset_lt : offset.natAbs < 1440
  deriving DecidableEq

namespace Timestamp

/-! ## Reading -/

/-- The value of a decimal digit. -/
def digit? (c : Char) : Option Nat :=
  if '0' ≤ c ∧ c ≤ '9' then some (c.toNat - '0'.toNat) else none

/-- Reads a number of exactly `count` digits, continuing from `value`. -/
def digits? : (count value : Nat) → List Char → Option (Nat × List Char)
  | 0, value, cs => some (value, cs)
  | _ + 1, _, [] => none
  | count + 1, value, c :: cs => do digits? count (10 * value + (← digit? c)) cs

/-- Reads one given character. -/
def expect? (c : Char) : List Char → Option (List Char)
  | [] => none
  | d :: cs => if d = c then some cs else none

/-- Reads the separator of date and time: any character of one byte. -/
def separator? : List Char → Option (List Char)
  | [] => none
  | c :: cs => if c.toNat < 128 then some cs else none

/-- The nanoseconds that the digits of a fraction spell; digits behind the ninth are dropped. -/
def nanoseconds (digits : List Char) : Nat :=
  let kept := digits.take 9
  kept.foldl (fun n c => 10 * n + (c.toNat - '0'.toNat)) 0 * Nat.pow 10 (9 - kept.length)

/-- Reads the fraction of a second, if there is one. -/
def fraction? (cs : List Char) : Option (Nat × List Char) :=
  match cs with
  | '.' :: rest =>
    let digits := rest.takeWhile Char.isDigit
    if digits.isEmpty then none
    else some (nanoseconds digits, rest.dropWhile Char.isDigit)
  | _ => some (0, cs)

/-- Reads an offset, to the end of the text. -/
def offset? (cs : List Char) : Option Int :=
  match cs with
  | ['Z'] | ['z'] => some 0
  | sign :: rest => do
    let (hours, rest) ← digits? 2 0 rest
    let rest ← expect? ':' rest
    let (minutes, rest) ← digits? 2 0 rest
    if rest ≠ [] ∨ 23 < hours ∨ 59 < minutes then none
    else if sign = '+' then some (60 * hours + minutes)
    else if sign = '-' then some (-(60 * hours + minutes : Int))
    else none
  | [] => none

/-- Whether the minute of a local time with an offset is 23:59 UTC on the last day of a month. -/
def endsUtcMonth (year month day hour minute : Nat) (offset : Int) : Bool :=
  let length := daysInMonth year month
  let utcMinute : Int := 60 * hour + minute - offset
  if utcMinute = -1 then day == 1
  else if utcMinute = 1439 then day == length
  else if utcMinute = 2879 then day + 1 == length
  else false

/-- Puts a timestamp together if each part is within its range. -/
def make? (year month day hour minute second nanosecond : Nat) (offset : Int) : Option Timestamp :=
  if h : year < 10000 ∧ (1 ≤ month ∧ month ≤ 12) ∧ (1 ≤ day ∧ day ≤ daysInMonth year month) ∧
      (hour < 24 ∧ minute < 60 ∧ second < 60 ∧ nanosecond < 1000000000) ∧ offset.natAbs < 1440 then
    some
      { year, month, day, hour, minute, second, nanosecond, offset
        year_lt := h.1, month_mem := h.2.1, day_mem := h.2.2.1, time_lt := h.2.2.2.1
        offset_lt := h.2.2.2.2 }
  else none

/-- Reads a timestamp from characters. -/
def ofChars? (cs : List Char) : Option Timestamp := do
  let (year, cs) ← digits? 4 0 cs
  let (month, cs) ← digits? 2 0 (← expect? '-' cs)
  let (day, cs) ← digits? 2 0 (← expect? '-' cs)
  let (hour, cs) ← digits? 2 0 (← separator? cs)
  let (minute, cs) ← digits? 2 0 (← expect? ':' cs)
  let (second, cs) ← digits? 2 0 (← expect? ':' cs)
  let (nanosecond, cs) ← fraction? cs
  let offset ← offset? cs
  if second = 60 then
    if endsUtcMonth year month day hour minute offset then
      make? year month day hour minute 59 999999999 offset
    else none
  else make? year month day hour minute second nanosecond offset

/-- Reads a timestamp. -/
def ofText? (s : String) : Option Timestamp := ofChars? s.toList

/-! ## Writing -/

/-- A number in at least `width` digits. -/
def padded (width n : Nat) : List Char :=
  let digits := Nat.toDigits 10 n
  List.replicate (width - digits.length) '0' ++ digits

/-- The digits of a fraction of a second, without the zeros at the end. -/
def fractionChars (nanosecond : Nat) : List Char :=
  if nanosecond = 0 then []
  else '.' :: ((padded 9 nanosecond).reverse.dropWhile (· == '0')).reverse

/-- An offset in hours and minutes. -/
def offsetChars (offset : Int) : List Char :=
  if offset = 0 then ['Z']
  else
    (if offset < 0 then '-' else '+') ::
      (padded 2 (offset.natAbs / 60) ++ ':' :: padded 2 (offset.natAbs % 60))

/-- The characters of a timestamp. -/
def chars (t : Timestamp) : List Char :=
  padded 4 t.year ++ '-' :: padded 2 t.month ++ '-' :: padded 2 t.day ++ 'T' :: padded 2 t.hour ++
    ':' :: padded 2 t.minute ++ ':' :: padded 2 t.second ++ fractionChars t.nanosecond ++
    offsetChars t.offset

/-- The text of a timestamp. -/
def text (t : Timestamp) : String := .ofList t.chars

end Timestamp

end SearchGateway
