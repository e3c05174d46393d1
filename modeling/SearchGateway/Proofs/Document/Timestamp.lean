import Mathlib.Tactic.Ring
import SearchGateway.Proofs.Text.Trailing
import SearchGateway.Timestamp

/-!
# Spellings of timestamps

`Timestamp.Spells` is the grammar of the texts that stand for a timestamp, without a word on how
they are read. `ofChars?_eq_some_iff` says that these are the texts that are read, each as what it
stands for, and `spells_text` that what is written for a timestamp is one of them. So every
timestamp survives being written and read (`ofText?_text`).
-/

namespace SearchGateway.Timestamp

/-! ## The grammar -/

/-- So many decimal digits, which spell a number. -/
structure SpellsNumber (width : Nat) (cs : List Char) (n : Nat) : Prop where
  length_eq : cs.length = width
  isDigit : ∀ c ∈ cs, c.isDigit = true
  value_eq : Nat.ofDigitChars 10 cs 0 = n

/-- The fraction of a second, if there is one: of any number of decimals, as many nanoseconds as it
is whole ones. -/
inductive SpellsFraction : List Char → Nat → Prop where
  | whole : SpellsFraction [] 0
  | decimals {cs : List Char} (hne : cs ≠ []) (hdigits : ∀ c ∈ cs, c.isDigit = true) :
    SpellsFraction ('.' :: cs) (Nat.ofDigitChars 10 cs 0 * 10 ^ 9 / 10 ^ cs.length)

/-- An offset in minutes: a letter for UTC, or hours and minutes to the east or to the west. -/
inductive SpellsOffset : List Char → Int → Prop where
  | upper : SpellsOffset ['Z'] 0
  | lower : SpellsOffset ['z'] 0
  | east {hh mm : List Char} {h m : Nat} (hhours : SpellsNumber 2 hh h)
      (hminutes : SpellsNumber 2 mm m) (hbounds : h ≤ 23 ∧ m ≤ 59) :
    SpellsOffset ('+' :: (hh ++ ':' :: mm)) (60 * h + m)
  | west {hh mm : List Char} {h m : Nat} (hhours : SpellsNumber 2 hh h)
      (hminutes : SpellsNumber 2 mm m) (hbounds : h ≤ 23 ∧ m ≤ 59) :
    SpellsOffset ('-' :: (hh ++ ':' :: mm)) (-(60 * h + m))

/-- A day and a minute of it, with a separator of one byte between them. -/
inductive SpellsMinute (t : Timestamp) : List Char → Prop where
  | intro {yyyy mm dd hh nn : List Char} {separator : Char} (hyear : SpellsNumber 4 yyyy t.year)
      (hmonth : SpellsNumber 2 mm t.month) (hday : SpellsNumber 2 dd t.day)
      (hseparator : separator.toNat < 128) (hhour : SpellsNumber 2 hh t.hour)
      (hminute : SpellsNumber 2 nn t.minute) :
    SpellsMinute t (yyyy ++ '-' :: (mm ++ '-' :: (dd ++ separator :: (hh ++ ':' :: nn))))

/-- The minute of a timestamp is the last one of a month in UTC: the next one is midnight, and the
day that begins, so many days after the local one, is the first of a month. -/
def EndsMonth (t : Timestamp) : Prop :=
  ∃ days : Nat, (60 * t.hour + t.minute + 1 - t.offset : Int) = 1440 * days ∧
    (t.day + days = 1 ∨ t.day + days = daysInMonth t.year t.month + 1)

/-- A text stands for a timestamp: its seconds are those of the text, or the text has a leap second,
for which the last nanosecond before it stands. -/
inductive Spells : List Char → Timestamp → Prop where
  | ordinary {t : Timestamp} {minute ss fraction offset : List Char}
      (hminute : SpellsMinute t minute) (hsecond : SpellsNumber 2 ss t.second)
      (hfraction : SpellsFraction fraction t.nanosecond)
      (hoffset : SpellsOffset offset t.offset) :
    Spells (minute ++ ':' :: (ss ++ (fraction ++ offset))) t
  | leap {t : Timestamp} {minute ss fraction offset : List Char} {dropped : Nat}
      (hminute : SpellsMinute t minute) (hsecond : SpellsNumber 2 ss 60)
      (hfraction : SpellsFraction fraction dropped) (hoffset : SpellsOffset offset t.offset)
      (hend : EndsMonth t) (hlast : t.second = 59 ∧ t.nanosecond = 999999999) :
    Spells (minute ++ ':' :: (ss ++ (fraction ++ offset))) t

/-! ## Numbers -/

variable {c d : Char} {cs rest : List Char} {count value n width : Nat} {o : Int}

/-- Digits have values. -/
theorem digit?_eq_some_iff : digit? c = some n ↔ c.isDigit = true ∧ c.toNat - '0'.toNat = n := by
  have hdigit : ('0' ≤ c ∧ c ≤ '9') ↔ c.isDigit = true := by
    simp only [Char.isDigit, Bool.and_eq_true, decide_eq_true_eq]
    rfl
  rw [digit?, Option.ite_none_right_eq_some, hdigit, Option.some.injEq]

/-- A number is read from as many digits as it is to have. -/
theorem digits?_eq_some_iff : digits? count value cs = some (n, rest) ↔
    ∃ ds, cs = ds ++ rest ∧ ds.length = count ∧ (∀ c ∈ ds, c.isDigit = true) ∧
      Nat.ofDigitChars 10 ds value = n := by
  induction count generalizing value cs with
  | zero =>
    rw [digits?, Option.some.injEq, Prod.mk.injEq]
    constructor
    · rintro ⟨rfl, rfl⟩
      exact ⟨[], rfl, rfl, by simp, rfl⟩
    · rintro ⟨ds, rfl, hlength, -, rfl⟩
      rw [List.length_eq_zero_iff] at hlength
      subst hlength
      exact ⟨rfl, rfl⟩
  | succ count ih =>
    cases cs with
    | nil =>
      rw [digits?]
      refine ⟨nofun, ?_⟩
      rintro ⟨ds, hnil, hlength, -⟩
      rw [List.nil_eq_append_iff] at hnil
      rw [hnil.1] at hlength
      cases hlength
    | cons c cs =>
      simp only [digits?, Option.bind_eq_bind, Option.bind_eq_some_iff, digit?_eq_some_iff, ih]
      constructor
      · rintro ⟨d, ⟨hc, rfl⟩, ds, rfl, rfl, hds, rfl⟩
        exact ⟨c :: ds, rfl, rfl, List.forall_mem_cons.2 ⟨hc, hds⟩, Nat.ofDigitChars_cons⟩
      · rintro ⟨ds, hcs, hlength, hds, rfl⟩
        cases ds with
        | nil => cases hlength
        | cons d ds =>
          obtain ⟨rfl, rfl⟩ := List.cons.inj hcs
          obtain ⟨hc, hds⟩ := List.forall_mem_cons.1 hds
          exact ⟨_, ⟨hc, rfl⟩, ds, rfl, Nat.succ.inj hlength, hds, Nat.ofDigitChars_cons.symm⟩

/-- A number is read from a text that starts with a spelling of it. -/
theorem digits?_zero_eq_some_iff : digits? width 0 cs = some (n, rest) ↔
    ∃ ds, SpellsNumber width ds n ∧ cs = ds ++ rest := by
  rw [digits?_eq_some_iff]
  constructor
  · rintro ⟨ds, hcs, hlength, hds, hvalue⟩
    exact ⟨ds, ⟨hlength, hds, hvalue⟩, hcs⟩
  · rintro ⟨ds, ⟨hlength, hds, hvalue⟩, hcs⟩
    exact ⟨ds, hcs, hlength, hds, hvalue⟩

/-- A character is expected where it stands. -/
theorem expect?_eq_some_iff : expect? c cs = some rest ↔ cs = c :: rest := by
  cases cs with
  | nil => exact ⟨nofun, nofun⟩
  | cons d cs => rw [expect?, Option.ite_none_right_eq_some, Option.some.injEq, List.cons.injEq]

/-- Reading a number and going on. -/
theorem bind_digits?_eq_some_iff {α : Type} {next : Nat × List Char → Option α} {a : α} :
    (digits? width 0 cs >>= next) = some a ↔
      ∃ n rest ds, SpellsNumber width ds n ∧ cs = ds ++ rest ∧ next (n, rest) = some a := by
  constructor
  · intro h
    obtain ⟨⟨n, rest⟩, hread, hnext⟩ := Option.bind_eq_some_iff.1 h
    obtain ⟨ds, hds, hcs⟩ := digits?_zero_eq_some_iff.1 hread
    exact ⟨n, rest, ds, hds, hcs, hnext⟩
  · rintro ⟨n, rest, ds, hds, hcs, hnext⟩
    exact Option.bind_eq_some_iff.2 ⟨_, digits?_zero_eq_some_iff.2 ⟨ds, hds, hcs⟩, hnext⟩

/-- Reading a mark and going on. -/
theorem bind_expect?_eq_some_iff {α : Type} {next : List Char → Option α} {a : α} :
    (expect? c cs >>= next) = some a ↔ ∃ rest, cs = c :: rest ∧ next rest = some a := by
  rw [Option.bind_eq_bind, Option.bind_eq_some_iff]
  exact exists_congr fun rest => and_congr_left fun _ => expect?_eq_some_iff

/-- A separator is one character of one byte. -/
theorem separator?_eq_some_iff :
    separator? cs = some rest ↔ ∃ c, c.toNat < 128 ∧ cs = c :: rest := by
  cases cs with
  | nil => exact ⟨nofun, nofun⟩
  | cons d cs =>
    rw [separator?, Option.ite_none_right_eq_some, Option.some.injEq]
    constructor
    · rintro ⟨hd, rfl⟩
      exact ⟨d, hd, rfl⟩
    · rintro ⟨c, hc, hcs⟩
      obtain ⟨rfl, rfl⟩ := List.cons.inj hcs
      exact ⟨hc, rfl⟩

/-! ## Fractions -/

/-- Digits spell less than the power of ten that has one digit more. -/
theorem ofDigitChars_lt (hdigits : ∀ c ∈ cs, c.isDigit = true) :
    Nat.ofDigitChars 10 cs 0 < 10 ^ cs.length := by
  induction cs with
  | nil => decide
  | cons c cs ih =>
    obtain ⟨hc, hcs⟩ := List.forall_mem_cons.1 hdigits
    have hvalue : c.toNat - '0'.toNat ≤ 9 := by
      simp only [Char.isDigit, Bool.and_eq_true, decide_eq_true_eq, UInt32.le_iff_toNat_le] at hc
      have hbound : c.toNat ≤ 57 := hc.2
      exact Nat.sub_le_sub_right hbound 48
    have hrest := ih hcs
    rw [Nat.ofDigitChars_cons, Nat.ofDigitChars_eq_ofDigitChars_zero, List.length_cons,
      Nat.pow_succ]
    calc 10 ^ cs.length * (10 * 0 + (c.toNat - '0'.toNat)) + Nat.ofDigitChars 10 cs 0
        < 10 ^ cs.length * 9 + 10 ^ cs.length :=
          Nat.add_lt_add_of_le_of_lt (Nat.mul_le_mul_left _ (by omega)) hrest
      _ = 10 ^ cs.length * 10 := by ring

/-- The nanoseconds of a decimal fraction are whole ones, however many its digits are. -/
theorem nanoseconds_eq (hdigits : ∀ c ∈ cs, c.isDigit = true) :
    nanoseconds cs = Nat.ofDigitChars 10 cs 0 * 10 ^ 9 / 10 ^ cs.length := by
  have hkept : nanoseconds cs =
      Nat.ofDigitChars 10 (cs.take 9) 0 * 10 ^ (9 - (cs.take 9).length) := rfl
  have hpow : ∀ k, 0 < 10 ^ k := fun k => Nat.pow_pos (by decide)
  rw [hkept]
  rcases Nat.le_total cs.length 9 with hshort | hlong
  · rw [List.take_of_length_le hshort]
    refine Nat.eq_div_of_mul_eq_left (hpow _).ne' ?_
    rw [Nat.mul_assoc, ← Nat.pow_add, Nat.sub_add_cancel hshort]
  · -- The digits behind the ninth are less than one nanosecond.
    have hdropped : Nat.ofDigitChars 10 (cs.drop 9) 0 < 10 ^ (cs.drop 9).length :=
      ofDigitChars_lt fun c hc => hdigits c (List.mem_of_mem_drop hc)
    have hlength : 10 ^ cs.length = 10 ^ (cs.drop 9).length * 10 ^ 9 := by
      rw [← Nat.pow_add, List.length_drop, Nat.sub_add_cancel hlong]
    have hvalue : Nat.ofDigitChars 10 cs 0 =
        10 ^ (cs.drop 9).length * Nat.ofDigitChars 10 (cs.take 9) 0 +
          Nat.ofDigitChars 10 (cs.drop 9) 0 := by
      rw [← Nat.ofDigitChars_eq_ofDigitChars_zero, ← Nat.ofDigitChars_append,
        List.take_append_drop]
    rw [List.length_take_of_le hlong, hlength, Nat.mul_div_mul_right _ _ (hpow 9), hvalue,
      Nat.mul_add_div (hpow _), Nat.div_eq_of_lt hdropped]
    simp

/-- A fraction is read off, if what follows it is neither a point nor a digit. -/
theorem fraction?_append {fraction : List Char} (hfraction : SpellsFraction fraction n)
    (hrest : ∀ c ∈ rest.head?, c ≠ '.' ∧ c.isDigit = false) :
    fraction? (fraction ++ rest) = some (n, rest) := by
  cases hfraction with
  | whole =>
    unfold fraction?
    split
    · next hpoint =>
      rw [List.nil_append] at hpoint
      exact absurd rfl (hrest '.' (by rw [hpoint]; rfl)).1
    · rfl
  | @decimals ds hne hdigits =>
    have hstop : rest.takeWhile Char.isDigit = [] ∧ rest.dropWhile Char.isDigit = rest := by
      cases rest with
      | nil => exact ⟨rfl, rfl⟩
      | cons c rest =>
        have hc := (hrest c rfl).2
        exact ⟨List.takeWhile_cons_of_neg (by simp [hc]),
          List.dropWhile_cons_of_neg (by simp [hc])⟩
    rw [List.cons_append, fraction?, List.takeWhile_append_of_pos hdigits,
      List.dropWhile_append_of_pos hdigits, hstop.1, hstop.2,
      List.append_nil, if_neg (by simpa using hne), nanoseconds_eq hdigits]

/-- What is read as a fraction spells it. -/
theorem exists_of_fraction?_eq_some (h : fraction? cs = some (n, rest)) :
    ∃ fraction, SpellsFraction fraction n ∧ cs = fraction ++ rest := by
  unfold fraction? at h
  split at h
  · next tail =>
    dsimp only at h
    split at h
    · cases h
    · next hne =>
      cases h
      have hdigits : ∀ c ∈ tail.takeWhile Char.isDigit, c.isDigit = true :=
        fun c hc => List.mem_takeWhile_imp hc
      refine ⟨'.' :: tail.takeWhile Char.isDigit, ?_, ?_⟩
      · rw [nanoseconds_eq hdigits]
        exact .decimals (by simpa using hne) hdigits
      · rw [List.cons_append, List.takeWhile_append_dropWhile]
  · cases h
    exact ⟨[], .whole, rfl⟩

/-! ## Offsets -/

/-- An offset starts with a letter or a sign. -/
theorem SpellsOffset.head (hoffset : SpellsOffset cs o) :
    ∀ c ∈ cs.head?, c ≠ '.' ∧ c.isDigit = false := by
  cases hoffset <;> simp

/-- An offset with a sign is read from a spelling of its hours and minutes. -/
theorem offset?_of_sign {sign : Char} {hh mm : List Char} {h m : Nat}
    (hsign : sign = '+' ∨ sign = '-') (hhours : SpellsNumber 2 hh h)
    (hminutes : SpellsNumber 2 mm m) (hbounds : h ≤ 23 ∧ m ≤ 59) :
    offset? (sign :: (hh ++ ':' :: mm)) =
      some (if sign = '+' then (60 * h + m : Int) else -(60 * h + m)) := by
  have hhead : digits? 2 0 (hh ++ ':' :: mm) = some (h, ':' :: mm) :=
    digits?_zero_eq_some_iff.2 ⟨hh, hhours, rfl⟩
  have hcolon : expect? ':' (':' :: mm) = some mm := expect?_eq_some_iff.2 rfl
  have htail : digits? 2 0 mm = some (m, []) :=
    digits?_zero_eq_some_iff.2 ⟨mm, hminutes, (List.append_nil mm).symm⟩
  have hinside : ¬(([] : List Char) ≠ [] ∨ 23 < h ∨ 59 < m) := by
    rintro (hne | hhigh | hhigh)
    · exact hne rfl
    · omega
    · omega
  unfold offset?
  split
  · next hletter => rcases hsign with rfl | rfl <;> cases hletter
  · next hletter => rcases hsign with rfl | rfl <;> cases hletter
  · next hcons =>
    cases hcons
    simp only [hhead, hcolon, htail, Option.bind_eq_bind, Option.bind_some]
    rw [if_neg hinside]
    split
    · rfl
    · next hplus => rw [if_pos (hsign.resolve_left hplus)]
  · next hnil => cases hnil

/-- What is read as an offset spells it. -/
theorem spellsOffset_of_offset?_eq_some (h : offset? cs = some o) : SpellsOffset cs o := by
  unfold offset? at h
  split at h
  · cases h
    exact .upper
  · cases h
    exact .lower
  · simp only [Option.bind_eq_bind, Option.bind_eq_some_iff, Prod.exists,
      digits?_zero_eq_some_iff, expect?_eq_some_iff] at h
    obtain ⟨hours, _, ⟨hh, hhours, rfl⟩, _, rfl, minutes, _, ⟨mm, hminutes, rfl⟩, h⟩ := h
    split at h
    · cases h
    · next hbounds =>
      simp only [not_or, not_not, Nat.not_lt] at hbounds
      obtain ⟨rfl, hbounds⟩ := hbounds
      rw [List.append_nil]
      split at h
      · next hsign =>
        cases h
        subst hsign
        exact .east hhours hminutes hbounds
      · split at h
        · next hsign =>
          cases h
          subst hsign
          exact .west hhours hminutes hbounds
        · cases h
  · cases h

/-- The offsets that are read are those that are spelled. -/
theorem offset?_eq_some_iff : offset? cs = some o ↔ SpellsOffset cs o := by
  refine ⟨spellsOffset_of_offset?_eq_some, fun hoffset => ?_⟩
  cases hoffset with
  | upper => rfl
  | lower => rfl
  | east hhours hminutes hbounds => exact offset?_of_sign (.inl rfl) hhours hminutes hbounds
  | west hhours hminutes hbounds => exact offset?_of_sign (.inr rfl) hhours hminutes hbounds

/-! ## Reading -/

variable {t : Timestamp}

/-- A timestamp is put together of its parts. -/
theorem make?_eq_some_iff {year month day hour minute second nanosecond : Nat} {offset : Int} :
    make? year month day hour minute second nanosecond offset = some t ↔
      t.year = year ∧ t.month = month ∧ t.day = day ∧ t.hour = hour ∧ t.minute = minute ∧
        t.second = second ∧ t.nanosecond = nanosecond ∧ t.offset = offset := by
  constructor
  · intro h
    unfold make? at h
    split at h
    · cases h
      exact ⟨rfl, rfl, rfl, rfl, rfl, rfl, rfl, rfl⟩
    · cases h
  · rintro ⟨rfl, rfl, rfl, rfl, rfl, rfl, rfl, rfl⟩
    exact dif_pos ⟨t.year_lt, t.month_mem, t.day_mem, t.time_lt, t.offset_lt⟩

/-- The last minute of a month in UTC is found on the local clock. -/
theorem endsUtcMonth_iff :
    endsUtcMonth t.year t.month t.day t.hour t.minute t.offset = true ↔ EndsMonth t := by
  have hoffset := t.offset_lt
  obtain ⟨hhour, hminute, -, -⟩ := t.time_lt
  obtain ⟨hfirst, hlength⟩ := t.day_mem
  unfold endsUtcMonth EndsMonth
  dsimp only
  constructor
  · intro h
    split at h
    · next hbefore => exact ⟨0, by omega, .inl (by simpa using h)⟩
    · split at h
      · next hsame => exact ⟨1, by omega, .inr (by simpa using h)⟩
      · split at h
        · next hafter => exact ⟨2, by omega, .inr (by have := eq_of_beq h; omega)⟩
        · cases h
  · rintro ⟨days, hmidnight, hday⟩
    obtain rfl | rfl : days = 0 ∨ days = 1 := by omega
    · rw [if_pos (by omega), beq_iff_eq]
      omega
    · rw [if_neg (by omega), if_pos (by omega), beq_iff_eq]
      omega

/-- Seconds and nanoseconds of a text are those of a timestamp, or they are a leap second, for which
the last nanosecond before it stands. -/
inductive SaysSeconds (t : Timestamp) : Nat → Nat → Prop where
  | ordinary : SaysSeconds t t.second t.nanosecond
  | leap {dropped : Nat} (hend : EndsMonth t)
      (hlast : t.second = 59 ∧ t.nanosecond = 999999999) : SaysSeconds t 60 dropped

/-- The parts of a text that stands for a timestamp. -/
theorem spells_iff : Spells cs t ↔ ∃ minute ss fraction zone second nanosecond,
    cs = minute ++ ':' :: (ss ++ (fraction ++ zone)) ∧ SpellsMinute t minute ∧
      SpellsNumber 2 ss second ∧ SpellsFraction fraction nanosecond ∧
      SpellsOffset zone t.offset ∧ SaysSeconds t second nanosecond := by
  constructor
  · intro h
    cases h with
    | ordinary hminute hsecond hfraction hoffset =>
      exact ⟨_, _, _, _, _, _, rfl, hminute, hsecond, hfraction, hoffset, .ordinary⟩
    | leap hminute hsecond hfraction hoffset hend hlast =>
      exact ⟨_, _, _, _, _, _, rfl, hminute, hsecond, hfraction, hoffset, .leap hend hlast⟩
  · rintro ⟨minute, ss, fraction, zone, second, nanosecond, rfl, hminute, hsecond, hfraction,
      hoffset, hsays⟩
    cases hsays with
    | ordinary => exact .ordinary hminute hsecond hfraction hoffset
    | leap hend hlast => exact .leap hminute hsecond hfraction hoffset hend hlast

/-- With its seconds, a timestamp is put together of what a text says. -/
theorem seconds_eq_some_iff {year month day hour minute second nanosecond : Nat} {offset : Int} :
    (if second = 60 then
        if endsUtcMonth year month day hour minute offset then
          make? year month day hour minute 59 999999999 offset
        else none
      else make? year month day hour minute second nanosecond offset) = some t ↔
      (t.year = year ∧ t.month = month ∧ t.day = day ∧ t.hour = hour ∧ t.minute = minute ∧
        t.offset = offset) ∧ SaysSeconds t second nanosecond := by
  constructor
  · intro h
    split at h
    · next hsixty =>
      split at h
      · next hend =>
        obtain ⟨rfl, rfl, rfl, rfl, rfl, hsecond, hnanosecond, rfl⟩ := make?_eq_some_iff.1 h
        rw [hsixty]
        exact ⟨⟨rfl, rfl, rfl, rfl, rfl, rfl⟩,
          .leap (endsUtcMonth_iff.1 hend) ⟨hsecond, hnanosecond⟩⟩
      · cases h
    · obtain ⟨rfl, rfl, rfl, rfl, rfl, rfl, rfl, rfl⟩ := make?_eq_some_iff.1 h
      exact ⟨⟨rfl, rfl, rfl, rfl, rfl, rfl⟩, .ordinary⟩
  · rintro ⟨⟨rfl, rfl, rfl, rfl, rfl, rfl⟩, hsays⟩
    cases hsays with
    | ordinary =>
      have hsecond : t.second ≠ 60 := by
        have := t.time_lt
        omega
      rw [if_neg hsecond, make?_eq_some_iff]
      exact ⟨rfl, rfl, rfl, rfl, rfl, rfl, rfl, rfl⟩
    | leap hend hlast =>
      rw [if_pos rfl, if_pos (endsUtcMonth_iff.2 hend), make?_eq_some_iff]
      exact ⟨rfl, rfl, rfl, rfl, rfl, hlast.1, hlast.2, rfl⟩

/-- The texts that are read as timestamps are those that stand for them. -/
theorem ofChars?_eq_some_iff : ofChars? cs = some t ↔ Spells cs t := by
  unfold ofChars?
  rw [spells_iff]
  constructor
  · intro h
    obtain ⟨year, _, yyyy, hyear, rfl, h₁⟩ := bind_digits?_eq_some_iff.1 h
    obtain ⟨_, rfl, h₂⟩ := bind_expect?_eq_some_iff.1 h₁
    obtain ⟨month, _, mm, hmonth, rfl, h₃⟩ := bind_digits?_eq_some_iff.1 h₂
    obtain ⟨_, rfl, h₄⟩ := bind_expect?_eq_some_iff.1 h₃
    obtain ⟨day, _, dd, hday, rfl, h₅⟩ := bind_digits?_eq_some_iff.1 h₄
    obtain ⟨_, hbehind, h₆⟩ := Option.bind_eq_some_iff.1 h₅
    rw [separator?_eq_some_iff] at hbehind
    obtain ⟨separator, hseparator, rfl⟩ := hbehind
    obtain ⟨hour, _, hh, hhour, rfl, h₇⟩ := bind_digits?_eq_some_iff.1 h₆
    obtain ⟨_, rfl, h₈⟩ := bind_expect?_eq_some_iff.1 h₇
    obtain ⟨minute, _, nn, hminute, rfl, h₉⟩ := bind_digits?_eq_some_iff.1 h₈
    obtain ⟨_, rfl, h₁₀⟩ := bind_expect?_eq_some_iff.1 h₉
    obtain ⟨second, _, ss, hsecond, rfl, h₁₁⟩ := bind_digits?_eq_some_iff.1 h₁₀
    obtain ⟨⟨nanosecond, zone⟩, hread, h₁₂⟩ := Option.bind_eq_some_iff.1 h₁₁
    obtain ⟨fraction, hfraction, rfl⟩ := exists_of_fraction?_eq_some hread
    obtain ⟨offset, hoffset, h₁₃⟩ := Option.bind_eq_some_iff.1 h₁₂
    obtain ⟨⟨rfl, rfl, rfl, rfl, rfl, rfl⟩, hsays⟩ := seconds_eq_some_iff.1 h₁₃
    refine ⟨_, ss, fraction, zone, second, nanosecond, ?_,
      .intro hyear hmonth hday hseparator hhour hminute, hsecond, hfraction,
      offset?_eq_some_iff.1 hoffset, hsays⟩
    simp
  · rintro ⟨_, ss, fraction, zone, second, nanosecond, rfl,
      ⟨hyear, hmonth, hday, hseparator, hhour, hminute⟩, hsecond, hfraction, hoffset, hsays⟩
    simp only [List.append_assoc, List.cons_append]
    refine bind_digits?_eq_some_iff.2 ⟨_, _, _, hyear, rfl, ?_⟩
    refine bind_expect?_eq_some_iff.2 ⟨_, rfl, ?_⟩
    refine bind_digits?_eq_some_iff.2 ⟨_, _, _, hmonth, rfl, ?_⟩
    refine bind_expect?_eq_some_iff.2 ⟨_, rfl, ?_⟩
    refine bind_digits?_eq_some_iff.2 ⟨_, _, _, hday, rfl, ?_⟩
    refine Option.bind_eq_some_iff.2 ⟨_, separator?_eq_some_iff.2 ⟨_, hseparator, rfl⟩, ?_⟩
    refine bind_digits?_eq_some_iff.2 ⟨_, _, _, hhour, rfl, ?_⟩
    refine bind_expect?_eq_some_iff.2 ⟨_, rfl, ?_⟩
    refine bind_digits?_eq_some_iff.2 ⟨_, _, _, hminute, rfl, ?_⟩
    refine bind_expect?_eq_some_iff.2 ⟨_, rfl, ?_⟩
    refine bind_digits?_eq_some_iff.2 ⟨_, _, _, hsecond, rfl, ?_⟩
    refine Option.bind_eq_some_iff.2 ⟨(_, _), fraction?_append hfraction hoffset.head, ?_⟩
    refine Option.bind_eq_some_iff.2 ⟨_, offset?_eq_some_iff.2 hoffset, ?_⟩
    exact seconds_eq_some_iff.2 ⟨⟨rfl, rfl, rfl, rfl, rfl, rfl⟩, hsays⟩

/-! ## Writing -/

/-- A number is spelled in as many digits as it may have. -/
theorem spells_padded (hwidth : 0 < width) (hn : n < 10 ^ width) :
    SpellsNumber width (padded width n) n := by
  have hlength := (Nat.length_toDigits_le_iff (b := 10) (by decide) hwidth).2 hn
  refine ⟨?_, ?_, ?_⟩
  · rw [padded, List.length_append, List.length_replicate, Nat.sub_add_cancel hlength]
  · intro c hc
    rcases List.mem_append.1 hc with hc | hc
    · rw [List.eq_of_mem_replicate hc]
      rfl
    · exact Nat.isDigit_of_mem_toDigits (by decide) (by decide) hc
  · rw [padded, Nat.ofDigitChars_append, Nat.ofDigitChars_replicate_zero, Nat.mul_zero,
      Nat.ofDigitChars_ten_toDigits]

/-- Nanoseconds are spelled as a fraction. -/
theorem spells_fractionChars (hn : n < 1000000000) : SpellsFraction (fractionChars n) n := by
  by_cases hzero : n = 0
  · rw [hzero]
    exact .whole
  · obtain ⟨hlength, hdigits, hvalue⟩ : SpellsNumber 9 (padded 9 n) n :=
      spells_padded (by decide) hn
    obtain ⟨zeros, hpadded⟩ := Text.exists_eq_rdropWhile_append '0' (padded 9 n)
    have hchars : fractionChars n = '.' :: (padded 9 n).rdropWhile (· == '0') := if_neg hzero
    generalize (padded 9 n).rdropWhile (· == '0') = ds at hpadded hchars
    rw [hpadded] at hlength hdigits hvalue
    rw [Nat.ofDigitChars_append, Nat.ofDigitChars_replicate_zero] at hvalue
    rw [List.length_append, List.length_replicate] at hlength
    have hne : ds ≠ [] := by
      rintro rfl
      exact hzero hvalue.symm
    have hspelled := SpellsFraction.decimals hne fun c hc => hdigits c (List.mem_append_left _ hc)
    have hscaled : Nat.ofDigitChars 10 ds 0 * 10 ^ 9 / 10 ^ ds.length = n := by
      rw [← hlength, Nat.add_comm, Nat.pow_add, ← Nat.mul_assoc,
        Nat.mul_div_cancel _ (Nat.pow_pos (by decide)), Nat.mul_comm, hvalue]
    rw [hchars]
    rwa [hscaled] at hspelled

/-- An offset of less than a day is spelled. -/
theorem spells_offsetChars (ho : o.natAbs < 1440) : SpellsOffset (offsetChars o) o := by
  have hhours : SpellsNumber 2 (padded 2 (o.natAbs / 60)) (o.natAbs / 60) :=
    spells_padded Nat.two_pos (by omega)
  have hminutes : SpellsNumber 2 (padded 2 (o.natAbs % 60)) (o.natAbs % 60) :=
    spells_padded Nat.two_pos (by omega)
  have hbounds : o.natAbs / 60 ≤ 23 ∧ o.natAbs % 60 ≤ 59 := by omega
  unfold offsetChars
  split
  · next hzero =>
    rw [hzero]
    exact .upper
  · split
    · have hwest := SpellsOffset.west hhours hminutes hbounds
      rwa [show (-(60 * (o.natAbs / 60 : Nat) + (o.natAbs % 60 : Nat)) : Int) = o by omega] at hwest
    · have heast := SpellsOffset.east hhours hminutes hbounds
      rwa [show (60 * (o.natAbs / 60 : Nat) + (o.natAbs % 60 : Nat) : Int) = o by omega] at heast

/-- What is written for a timestamp stands for it. -/
theorem spells_text (t : Timestamp) : Spells t.text.toList t := by
  have hchars : t.chars = padded 4 t.year ++ '-' :: (padded 2 t.month ++ '-' :: (padded 2 t.day ++
      'T' :: (padded 2 t.hour ++ ':' :: padded 2 t.minute))) ++ ':' :: (padded 2 t.second ++
        (fractionChars t.nanosecond ++ offsetChars t.offset)) := by simp [chars]
  obtain ⟨hhour, hminute, hsecond, hnanosecond⟩ := t.time_lt
  have hmonth := t.month_mem
  have hday : t.day < 100 := by
    have hlength : daysInMonth t.year t.month ≤ 31 := by
      unfold daysInMonth
      split_ifs <;> omega
    have := t.day_mem
    omega
  have htwo : ∀ {n}, n < 100 → SpellsNumber 2 (padded 2 n) n :=
    spells_padded Nat.two_pos
  rw [text, String.toList_ofList, hchars]
  exact .ordinary (.intro (spells_padded (by decide) t.year_lt) (htwo (by omega)) (htwo hday)
    (by decide) (htwo (by omega)) (htwo (by omega))) (htwo (by omega))
    (spells_fractionChars hnanosecond) (spells_offsetChars t.offset_lt)

/-- A timestamp survives being written and read. -/
theorem ofText?_text (t : Timestamp) : ofText? t.text = some t :=
  ofChars?_eq_some_iff.2 (spells_text t)

end SearchGateway.Timestamp
