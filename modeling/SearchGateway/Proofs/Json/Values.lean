import SearchGateway.Proofs.Except
import SearchGateway.Proofs.Json.Nesting

/-!
# What values take off the input

`Reads` relates a text to the value that is read of it and to what is left: it mirrors the readers
of a value and of what is left of a container, without their bounds (`reads_of_read`), and a bound
that goes with the length of the text suffices for them (`Reads.read_eq`).

What is read takes a text off the input (`Goal.Takes`): the same is read wherever that text stands,
if what follows does not go on with a number, and if as many containers may be opened as are nested
in the text (`Reads.exists_text`). The induction is on `Reads`; in a container, what follows a value
is looked at before the value, since it is what must not go on with a number.
-/

namespace SearchGateway.Json

variable {t r : Bytes} {b : UInt8} {a : Json} {first : Bool} {n : Nat}

/-! ## Scalars -/

/-- A word is taken off the input, whatever follows. Stepping over it leaves the same rest, and it
opens no container. -/
theorem reads_word {v : Json} {word : Bytes} (hplain : (b :: word).all isPlainByte = true)
    (h : (expectWord word t).map (v, ·) = .ok (a, r)) :
    expectWord word t = .ok r ∧ ∃ u, t = u ++ r ∧ ∀ r', EndsNumber r' →
      (expectWord word (u ++ r')).map (v, ·) = .ok (a, r') ∧
      ∀ level, nestingFrom .outside level (b :: (u ++ r')) = nestingFrom .outside level r' := by
  cases hword : expectWord word t with
  | error f =>
    rw [hword] at h
    cases h
  | ok rest =>
    rw [hword] at h
    cases h
    refine ⟨rfl, word, expectWord_eq_ok_iff.1 hword, fun r' _ => ⟨?_, fun level => ?_⟩⟩
    · rw [expectWord_eq_ok_iff.2 rfl]
      rfl
    · exact nestingFrom_append (List.all_eq_true.1 hplain) level r'

/-- A scalar is taken off the input, whatever follows that does not go on with a number. Stepping
over it leaves the same rest, and it opens no container. -/
theorem reads_scalar (h : scanScalar? b t = some (.ok (a, r))) :
    skipScalar? b t = some (.ok r) ∧ ∃ u, t = u ++ r ∧ ∀ r', EndsNumber r' →
      scanScalar? b (u ++ r') = some (.ok (a, r')) ∧
      ∀ level, nestingFrom .outside level (b :: (u ++ r')) = nestingFrom .outside level r' := by
  unfold scanScalar? at h
  unfold scanScalar? skipScalar?
  split_ifs at h ⊢ with hnull htrue hfalse hminus hdigit hquote
  all_goals simp only [Option.some.injEq] at h ⊢
  · subst hnull
    exact reads_word (by decide) h
  · subst htrue
    exact reads_word (by decide) h
  · subst hfalse
    exact reads_word (by decide) h
  · subst hminus
    obtain ⟨hskip, u, rfl, hu, htakes⟩ := reads_number h
    have hplain : ∀ c ∈ 0x2D :: u, isPlainByte c = true :=
      List.forall_mem_cons.2 ⟨by decide, fun c hc => isPlainByte_of_isNumberByte (hu c hc)⟩
    exact ⟨hskip, u, rfl, fun r' hr' => ⟨htakes r' hr', fun level =>
      nestingFrom_append hplain level r'⟩⟩
  · obtain ⟨hskip, u, htext, hu, htakes⟩ := reads_number h
    cases u with
    | nil => cases htakes [] trivial
    | cons c u =>
      obtain ⟨rfl, rfl⟩ := List.cons.inj htext
      have hplain : ∀ c ∈ b :: u, isPlainByte c = true :=
        fun c hc => isPlainByte_of_isNumberByte (hu c hc)
      exact ⟨hskip, u, rfl, fun r' hr' => ⟨htakes r' hr', fun level =>
        nestingFrom_append hplain level r'⟩⟩
  · subst hquote
    cases hstring : scanString t with
    | error f =>
      rw [hstring] at h
      cases h
    | ok scanned =>
      obtain ⟨s, rest⟩ := scanned
      rw [hstring] at h
      cases h
      obtain ⟨hskip, u, rfl, htakes⟩ := reads_string hstring
      refine ⟨hskip, u, rfl, fun r' _ => ⟨?_, fun level => ?_⟩⟩
      · rw [htakes r']
        rfl
      · exact nestingFrom_string (reads_string (htakes r')).1 level

/-! ## Commas, colons and brackets -/

/-- Blanks are taken off the input up to a byte that is none, whatever follows. They open no
container. -/
theorem exists_of_skipBlanks (h : skipBlanks t = b :: r) :
    ∃ u, t = u ++ b :: r ∧ (∀ r', skipBlanks (u ++ b :: r') = b :: r') ∧
      ∀ level r', nestingFrom .outside level (u ++ r') = nestingFrom .outside level r' := by
  obtain ⟨u, hu, htext⟩ := exists_blanks t
  rw [h] at htext
  refine ⟨u, htext, fun r' => ?_, fun level r' =>
    nestingFrom_append (fun c hc => isPlainByte_of_isBlankByte (hu c hc)) level r'⟩
  rw [skipBlanks_append hu]
  exact List.dropWhile_cons_of_neg (by simp [isBlankByte_of_skipBlanks h])

/-- What is left behind blanks is no longer. -/
theorem length_of_skipBlanks (h : skipBlanks t = r) : r.length ≤ t.length := by
  rw [← h]
  exact (List.dropWhile_sublist _).length_le

/-- What starts with a blank does not go on with a number. -/
theorem endsNumber_of_isBlankByte (hb : isBlankByte b = true) (t : Bytes) :
    EndsNumber (b :: t) := by
  simp only [isBlankByte, Bool.or_eq_true, beq_iff_eq] at hb
  rcases hb with ((rfl | rfl) | rfl) | rfl <;> exact ⟨rfl, by decide⟩

/-- Blanks, and what goes on with no number, do not go on with one. -/
theorem endsNumber_of_skipBlanks (h : skipBlanks t = b :: r) (hb : isNumberByte b = false) :
    EndsNumber t := by
  cases t with
  | nil => cases h
  | cons c t =>
    cases hc : isBlankByte c with
    | true => exact endsNumber_of_isBlankByte hc t
    | false =>
      rw [skipBlanks, List.dropWhile_cons_of_neg (by simp [hc])] at h
      cases h
      simp_all [isNumberByte, EndsNumber]

/-- Blanks at the start are stepped over at once. -/
theorem skipBlanks_skipBlanks (t : Bytes) : skipBlanks (skipBlanks t) = skipBlanks t := by
  obtain ⟨u, hu, htext⟩ := exists_blanks t
  exact (congrArg skipBlanks htext).trans (skipBlanks_append hu _) |>.symm

/-- What is next in a container stands behind blanks alone, if it is the first, else behind a
comma. -/
def Before (first : Bool) (t r : Bytes) : Prop :=
  if first then skipBlanks t = r else ∃ t', skipBlanks t = 0x2C :: t' ∧ skipBlanks t' = r

/-- What stands before the next of a container is taken off the input, whatever follows. It opens
no container. -/
theorem Before.exists_text (h : Before first t (b :: r)) :
    ∃ u, t = u ++ b :: r ∧ (∀ r', Before first (u ++ b :: r') (b :: r')) ∧
      ∀ level r', nestingFrom .outside level (u ++ r') = nestingFrom .outside level r' := by
  cases first with
  | true => exact exists_of_skipBlanks h
  | false =>
    obtain ⟨t', hcomma, h⟩ := h
    obtain ⟨u, rfl, hblanks, hlevel⟩ := exists_of_skipBlanks hcomma
    obtain ⟨u', rfl, hblanks', hlevel'⟩ := exists_of_skipBlanks h
    refine ⟨u ++ 0x2C :: u', by simp, fun r' => ?_, fun level r' => ?_⟩
    · rw [List.append_assoc]
      exact ⟨_, hblanks _, hblanks' r'⟩
    · rw [List.append_assoc, hlevel]
      exact hlevel' level r'

/-- What stands before the next of a container is taken off the input. -/
theorem Before.length_le (h : Before first t r) :
    r.length + (if first then 0 else 1) ≤ t.length := by
  cases first with
  | true => exact length_of_skipBlanks h
  | false =>
    obtain ⟨t', hcomma, h⟩ := h
    have hcomma := length_of_skipBlanks hcomma
    have h := length_of_skipBlanks h
    simp only [List.length_cons] at hcomma
    simp only [Bool.false_eq_true, if_false]
    omega

/-- An array ends at its bracket. -/
theorem nextItem_eq_stop_iff : nextItem first t = .ok (.stop r) ↔ skipBlanks t = 0x5D :: r := by
  unfold nextItem
  grind

/-- An item starts with anything but a bracket. -/
theorem nextItem_eq_item_iff : nextItem first t = .ok (.item r) ↔
    ∃ b tail, r = b :: tail ∧ b ≠ 0x5D ∧ Before first t (b :: tail) := by
  unfold nextItem Before
  grind

/-- An object ends at its brace. -/
theorem nextKey_eq_stop_iff : nextKey first t = .ok (.stop r) ↔ skipBlanks t = 0x7D :: r := by
  unfold nextKey
  grind

/-- A key starts with a quote. -/
theorem nextKey_eq_item_iff : nextKey first t = .ok (.item r) ↔ Before first t (0x22 :: r) := by
  unfold nextKey Before
  grind

/-- Behind an item, the text goes on with no number. -/
theorem endsNumber_of_nextItem {next : Next} (h : nextItem false t = .ok next) :
    EndsNumber t := by
  cases next with
  | stop r => exact endsNumber_of_skipBlanks (nextItem_eq_stop_iff.1 h) (by decide)
  | item r =>
    obtain ⟨c, tail, -, -, t', hcomma, -⟩ := nextItem_eq_item_iff.1 h
    exact endsNumber_of_skipBlanks hcomma (by decide)

/-- Behind a member, the text goes on with no number. -/
theorem endsNumber_of_nextKey {next : Next} (h : nextKey false t = .ok next) :
    EndsNumber t := by
  cases next with
  | stop r => exact endsNumber_of_skipBlanks (nextKey_eq_stop_iff.1 h) (by decide)
  | item r =>
    obtain ⟨t', hcomma, -⟩ := nextKey_eq_item_iff.1 h
    exact endsNumber_of_skipBlanks hcomma (by decide)

/-- A key is a string with a colon behind it. -/
theorem scanKey_eq_ok_iff {key : String} :
    scanKey t = .ok (key, r) ↔ ∃ t', scanString t = .ok (key, t') ∧ skipBlanks t' = 0x3A :: r := by
  have hcolon : ∀ t', expectColon t' = .ok r ↔ skipBlanks t' = 0x3A :: r := by
    intro t'
    unfold expectColon
    grind
  simp only [scanKey, bind_eq_ok_iff, Prod.exists, pure, Except.pure, Except.ok.injEq,
    Prod.mk.injEq]
  grind

/-- A key and its colon are taken off the input. -/
theorem length_of_scanKey {key : String} (h : scanKey t = .ok (key, r)) : r.length < t.length := by
  obtain ⟨t', hstring, hcolon⟩ := scanKey_eq_ok_iff.1 h
  obtain ⟨-, u, rfl, -⟩ := reads_string hstring
  have hcolon := length_of_skipBlanks hcolon
  simp only [List.length_cons, List.length_append] at hcolon ⊢
  omega

/-- What stands before the value of a member, its key and its colon, is taken off the input,
whatever follows. It opens no container. -/
theorem exists_of_nextKey {key : String} {t₁ t₂ : Bytes}
    (hnext : nextKey first t = .ok (.item t₁)) (hkey : scanKey t₁ = .ok (key, t₂)) :
    ∃ u, t = u ++ t₂ ∧ u ≠ [] ∧ (∀ r, ∃ t₁, nextKey first (u ++ r) = .ok (.item t₁) ∧
        scanKey t₁ = .ok (key, r)) ∧
      ∀ level r, nestingFrom .outside level (u ++ r) = nestingFrom .outside level r := by
  obtain ⟨t', hstring, hcolon⟩ := scanKey_eq_ok_iff.1 hkey
  obtain ⟨-, s, rfl, htakes⟩ := reads_string hstring
  obtain ⟨w, rfl, hblanks, hlevel⟩ := exists_of_skipBlanks hcolon
  obtain ⟨u, rfl, hbefore, hlevel'⟩ := (nextKey_eq_item_iff.1 hnext).exists_text
  refine ⟨u ++ 0x22 :: (s ++ (w ++ [0x3A])), by simp, by simp, fun r => ?_, fun level r => ?_⟩
  · refine ⟨s ++ (w ++ 0x3A :: r), nextKey_eq_item_iff.2 ?_,
      scanKey_eq_ok_iff.2 ⟨_, htakes _, hblanks r⟩⟩
    have := hbefore (s ++ (w ++ 0x3A :: r))
    simpa using this
  · have hstring := nestingFrom_string (reads_string (htakes (w ++ 0x3A :: r))).1 level
    have hblanks := hlevel level (0x3A :: r)
    simp only [List.append_assoc, List.cons_append, List.nil_append, hlevel']
    exact hstring.trans hblanks

/-! ## Values -/

/-- What is read next: a value, or what is left of a container behind its bracket. -/
inductive Goal where
  | value
  | items (first : Bool) (seen : List Json)
  | members (first : Bool) (seen : List (String × Json))

/-- What is read of a text where so many containers may still be opened, the value that is read, and
what is left of the text. -/
inductive Reads : (n : Nat) → Goal → Bytes → Json → Bytes → Prop
  | scalar {n : Nat} {t tail r : Bytes} {b : UInt8} {a : Json} (hblanks : skipBlanks t = b :: tail)
      (h : scanScalar? b tail = some (.ok (a, r))) : Reads n .value t a r
  | array {n : Nat} {t tail r : Bytes} {a : Json} (hblanks : skipBlanks t = 0x5B :: tail)
      (h : Reads n (.items true []) tail a r) : Reads (n + 1) .value t a r
  | object {n : Nat} {t tail r : Bytes} {a : Json} (hblanks : skipBlanks t = 0x7B :: tail)
      (h : Reads n (.members true []) tail a r) : Reads (n + 1) .value t a r
  | itemsEnd {n : Nat} {first : Bool} {seen : List Json} {t r : Bytes}
      (h : nextItem first t = .ok (.stop r)) :
      Reads n (.items first seen) t (.array seen.reverse) r
  | item {n : Nat} {first : Bool} {seen : List Json} {t t₁ t₂ r : Bytes} {v a : Json}
      (hnext : nextItem first t = .ok (.item t₁)) (hvalue : Reads n .value t₁ v t₂)
      (hrest : Reads n (.items false (v :: seen)) t₂ a r) : Reads n (.items first seen) t a r
  | membersEnd {n : Nat} {first : Bool} {seen : List (String × Json)} {t r : Bytes}
      (h : nextKey first t = .ok (.stop r)) :
      Reads n (.members first seen) t (ofEntries seen.reverse) r
  | member {n : Nat} {first : Bool} {seen : List (String × Json)} {key : String}
      {t t₁ t₂ t₃ r : Bytes} {v a : Json} (hnext : nextKey first t = .ok (.item t₁))
      (hkey : scanKey t₁ = .ok (key, t₂)) (hvalue : Reads n .value t₂ v t₃)
      (hrest : Reads n (.members false ((key, v) :: seen)) t₃ a r) :
      Reads n (.members first seen) t a r

/-- The reader for a goal. -/
def Goal.read (bound n : Nat) : Goal → Bytes → Except Fault (Json × Bytes)
  | .value => readAny bound (n + 1)
  | .items first seen => readItems bound (n + 1) first seen
  | .members first seen => readMembers bound (n + 1) first seen

/-- What a reader takes is read. -/
theorem reads_of_read {bound : Nat} {g : Goal} (h : g.read bound n t = .ok (a, r)) :
    Reads n g t a r := by
  induction bound generalizing n g t a r with
  | zero => cases g <;> cases h
  | succ bound ih =>
    cases g with
    | value =>
      simp only [Goal.read, readAny] at h
      split at h
      · cases h
      · next b tail hblanks =>
        split at h
        · next result hscalar =>
          subst h
          exact .scalar hblanks hscalar
        · split_ifs at h with harray hfull hobject hfull
          · subst harray
            obtain ⟨m, rfl⟩ : ∃ m, n = m + 1 := ⟨n - 1, by omega⟩
            exact .array hblanks (ih (g := .items true []) h)
          · subst hobject
            obtain ⟨m, rfl⟩ : ∃ m, n = m + 1 := ⟨n - 1, by omega⟩
            exact .object hblanks (ih (g := .members true []) h)
    | items first seen =>
      simp only [Goal.read, readItems] at h
      split at h
      · cases h
      · next hnext =>
        cases h
        exact .itemsEnd hnext
      · next hnext =>
        split at h
        · cases h
        · next hvalue => exact .item hnext (ih (g := .value) hvalue) (ih (g := .items ..) h)
    | members first seen =>
      simp only [Goal.read, readMembers] at h
      split at h
      · cases h
      · next hnext =>
        cases h
        exact .membersEnd hnext
      · next hnext =>
        split at h
        · cases h
        · next hkey =>
          split at h
          · cases h
          · next hvalue =>
            exact .member hnext hkey (ih (g := .value) hvalue) (ih (g := .members ..) h)

/-! ## Texts -/

/-- How many containers are open where a goal starts, when so many are where it ends. -/
def Goal.level : Goal → Nat → Nat
  | .value, level => level
  | .items .., level => level + 1
  | .members .., level => level + 1

/-- Behind an item, and behind a member, the text goes on with no number. -/
theorem Reads.endsNumber {g : Goal} (h : Reads n g t a r)
    (hgoal : (∃ seen, g = .items false seen) ∨ ∃ seen, g = .members false seen) :
    EndsNumber t := by
  cases h with
  | scalar | array | object => rcases hgoal with ⟨_, h⟩ | ⟨_, h⟩ <;> cases h
  | itemsEnd h | item h =>
    rcases hgoal with ⟨_, hgoal⟩ | ⟨_, hgoal⟩ <;> cases hgoal
    exact endsNumber_of_nextItem h
  | membersEnd h | member h =>
    rcases hgoal with ⟨_, hgoal⟩ | ⟨_, hgoal⟩ <;> cases hgoal
    exact endsNumber_of_nextKey h

/-- A text is taken off the input for what is read of it, whatever follows that does not go on with
a number: as long as `depth` containers may be opened, which is how many are nested in it. -/
structure Goal.Takes (g : Goal) (u : Bytes) (a : Json) (depth : Nat) : Prop where
  ne_nil : u ≠ []
  reads : ∀ n r, depth ≤ n → EndsNumber r → Reads n g (u ++ r) a r
  nesting_eq : ∀ level r, EndsNumber r → nestingFrom .outside (g.level level) (u ++ r) =
    max (g.level level + depth) (nestingFrom .outside level r)

section
variable {u u' w : Bytes} {v : Json} {depth depth' : Nat} {seen : List Json}
  {entries : List (String × Json)} {key : String}

/-- A scalar is taken off the input. -/
theorem takes_scalar (hblanks : skipBlanks t = b :: w) (h : scanScalar? b w = some (.ok (a, r))) :
    ∃ u, t = u ++ r ∧ Goal.value.Takes u a 0 := by
  obtain ⟨-, u, rfl, htakes⟩ := reads_scalar h
  obtain ⟨w, rfl, hblanks, hlevel⟩ := exists_of_skipBlanks hblanks
  refine ⟨w ++ b :: u, by simp, by simp, fun n r' _ hr' => ?_, fun level r' hr' => ?_⟩
  · rw [List.append_assoc]
    exact .scalar (hblanks _) (htakes r' hr').1
  · rw [List.append_assoc, hlevel]
    refine ((htakes r' hr').2 level).trans ?_
    exact (max_eq_right (le_nestingFrom ..)).symm

/-- A container is taken off the input with what stands behind the bracket that opens it. -/
theorem takes_container {g : Goal} (hlevel : ∀ level, g.level level = level + 1)
    (hb : b = 0x5B ∨ b = 0x7B)
    (hreads : ∀ {n t tail r}, skipBlanks t = b :: tail → Reads n g tail a r →
      Reads (n + 1) .value t a r)
    (hinner : g.Takes u a depth) (hblanks : skipBlanks t = b :: (u ++ r)) :
    ∃ u, t = u ++ r ∧ Goal.value.Takes u a (depth + 1) := by
  obtain ⟨w, rfl, hblanks, hblanksLevel⟩ := exists_of_skipBlanks hblanks
  refine ⟨w ++ b :: u, by simp, by simp, fun n r' hn hr' => ?_, fun level r' hr' => ?_⟩
  · obtain ⟨n, rfl⟩ : ∃ m, n = m + 1 := ⟨n - 1, by omega⟩
    rw [List.append_assoc]
    exact hreads (hblanks _) (hinner.reads n r' (Nat.le_of_succ_le_succ hn) hr')
  · have hinner := hinner.nesting_eq level r' hr'
    rw [hlevel] at hinner
    rw [List.append_assoc, hblanksLevel, List.cons_append, Goal.level, nestingFrom_open hb, hinner]
    omega

/-- The bracket that closes a container is taken off the input. -/
theorem takes_end {g : Goal} (hlevel : ∀ level, g.level level = level + 1)
    (hb : b = 0x5D ∨ b = 0x7D)
    (hreads : ∀ {n t r}, skipBlanks t = b :: r → Reads n g t a r)
    (hblanks : skipBlanks t = b :: r) : ∃ u, t = u ++ r ∧ g.Takes u a 0 := by
  obtain ⟨w, rfl, hblanks, hblanksLevel⟩ := exists_of_skipBlanks hblanks
  refine ⟨w ++ [b], by simp, by simp, fun n r' _ _ => ?_, fun level r' _ => ?_⟩
  · rw [List.append_assoc]
    exact hreads (hblanks r')
  · rw [List.append_assoc, hblanksLevel, hlevel]
    exact nestingFrom_close hb level r'

/-- An item, and what is left of its array behind it, are taken off the input. -/
theorem takes_item (hvalue : Goal.value.Takes u v depth)
    (hrest : (Goal.items false (v :: seen)).Takes u' a depth')
    (hnext : nextItem first t = .ok (.item (u ++ (u' ++ r)))) :
    ∃ u, t = u ++ r ∧ (Goal.items first seen).Takes u a (max depth depth') := by
  obtain ⟨c, u, rfl⟩ := List.exists_cons_of_ne_nil hvalue.ne_nil
  obtain ⟨c', tail, htext, hbracket, hbefore⟩ := nextItem_eq_item_iff.1 hnext
  obtain ⟨rfl, rfl⟩ := List.cons.inj htext
  obtain ⟨w, rfl, hbefore, hlevel⟩ := hbefore.exists_text
  refine ⟨w ++ (c :: u ++ u'), by simp, by simp, fun n r' hn hr' => ?_, fun level r' hr' => ?_⟩
  · have hrest := hrest.reads n r' (le_trans (le_max_right ..) hn) hr'
    have hvalue := hvalue.reads n (u' ++ r') (le_trans (le_max_left ..) hn)
      (hrest.endsNumber (.inl ⟨_, rfl⟩))
    rw [List.append_assoc, List.append_assoc]
    exact .item (nextItem_eq_item_iff.2 ⟨c, _, rfl, hbracket, hbefore _⟩) hvalue hrest
  · have hends := (hrest.reads depth' r' le_rfl hr').endsNumber (.inl ⟨_, rfl⟩)
    have hvalue := hvalue.nesting_eq (level + 1) (u' ++ r') hends
    have hrest := hrest.nesting_eq level r' hr'
    simp only [Goal.level] at hvalue hrest ⊢
    rw [List.append_assoc, List.append_assoc, hlevel, hvalue, hrest]
    omega

/-- A member, and what is left of its object behind it, are taken off the input. -/
theorem takes_member {t₁ : Bytes} (hvalue : Goal.value.Takes u v depth)
    (hrest : (Goal.members false ((key, v) :: entries)).Takes u' a depth')
    (hnext : nextKey first t = .ok (.item t₁)) (hkey : scanKey t₁ = .ok (key, u ++ (u' ++ r))) :
    ∃ u, t = u ++ r ∧ (Goal.members first entries).Takes u a (max depth depth') := by
  obtain ⟨w, rfl, hne, hnext, hlevel⟩ := exists_of_nextKey hnext hkey
  refine ⟨w ++ (u ++ u'), by simp, by simp [hne], fun n r' hn hr' => ?_, fun level r' hr' => ?_⟩
  · have hrest := hrest.reads n r' (le_trans (le_max_right ..) hn) hr'
    have hvalue := hvalue.reads n (u' ++ r') (le_trans (le_max_left ..) hn)
      (hrest.endsNumber (.inr ⟨_, rfl⟩))
    rw [List.append_assoc, List.append_assoc]
    obtain ⟨t₁, hnext, hkey⟩ := hnext (u ++ (u' ++ r'))
    exact .member hnext hkey hvalue hrest
  · have hends := (hrest.reads depth' r' le_rfl hr').endsNumber (.inr ⟨_, rfl⟩)
    have hvalue := hvalue.nesting_eq (level + 1) (u' ++ r') hends
    have hrest := hrest.nesting_eq level r' hr'
    simp only [Goal.level] at hvalue hrest ⊢
    rw [List.append_assoc, List.append_assoc, hlevel, hvalue, hrest]
    omega

end

/-- What is read takes its text off the input. -/
theorem Reads.exists_text {g : Goal} (h : Reads n g t a r) :
    ∃ u depth, t = u ++ r ∧ depth ≤ n ∧ g.Takes u a depth := by
  induction h with
  | scalar hblanks h =>
    obtain ⟨u, htext, hu⟩ := takes_scalar hblanks h
    exact ⟨u, 0, htext, Nat.zero_le _, hu⟩
  | array hblanks h ih =>
    obtain ⟨u, depth, rfl, hdepth, hu⟩ := ih
    obtain ⟨u, htext, hu⟩ := takes_container (fun _ => rfl) (.inl rfl) .array hu hblanks
    exact ⟨u, depth + 1, htext, Nat.succ_le_succ hdepth, hu⟩
  | object hblanks h ih =>
    obtain ⟨u, depth, rfl, hdepth, hu⟩ := ih
    obtain ⟨u, htext, hu⟩ := takes_container (fun _ => rfl) (.inr rfl) .object hu hblanks
    exact ⟨u, depth + 1, htext, Nat.succ_le_succ hdepth, hu⟩
  | itemsEnd h =>
    obtain ⟨u, htext, hu⟩ := takes_end (fun _ => rfl) (.inl rfl)
      (fun h => .itemsEnd (nextItem_eq_stop_iff.2 h)) (nextItem_eq_stop_iff.1 h)
    exact ⟨u, 0, htext, Nat.zero_le _, hu⟩
  | item hnext hvalue hrest ihvalue ihrest =>
    obtain ⟨u', depth', rfl, hdepth', hu'⟩ := ihrest
    obtain ⟨u, depth, rfl, hdepth, hu⟩ := ihvalue
    obtain ⟨w, htext, hw⟩ := takes_item hu hu' hnext
    exact ⟨w, max depth depth', htext, Nat.max_le.2 ⟨hdepth, hdepth'⟩, hw⟩
  | membersEnd h =>
    obtain ⟨u, htext, hu⟩ := takes_end (fun _ => rfl) (.inr rfl)
      (fun h => .membersEnd (nextKey_eq_stop_iff.2 h)) (nextKey_eq_stop_iff.1 h)
    exact ⟨u, 0, htext, Nat.zero_le _, hu⟩
  | member hnext hkey hvalue hrest ihvalue ihrest =>
    obtain ⟨u', depth', rfl, hdepth', hu'⟩ := ihrest
    obtain ⟨u, depth, rfl, hdepth, hu⟩ := ihvalue
    obtain ⟨w, htext, hw⟩ := takes_member hu hu' hnext hkey
    exact ⟨w, max depth depth', htext, Nat.max_le.2 ⟨hdepth, hdepth'⟩, hw⟩

/-- Something is taken off the input for whatever is read of it. -/
theorem Reads.length_lt {g : Goal} (h : Reads n g t a r) : r.length < t.length := by
  obtain ⟨u, depth, rfl, -, hu⟩ := h.exists_text
  have := List.length_pos_iff.2 hu.ne_nil
  rw [List.length_append]
  omega

/-! ## Bounds -/

/-- A bound that suffices for a text of a length. -/
def Goal.bound (length : Nat) : Goal → Nat
  | .value => 2 * length
  | .items .. => 2 * length + 1
  | .members .. => 2 * length + 1

/-- A bound that suffices is not zero. -/
theorem Reads.bound_pos {g : Goal} (h : Reads n g t a r) : 0 < g.bound t.length := by
  have := h.length_lt
  cases g <;> simp only [Goal.bound] <;> omega

/-- What is read, a reader takes. -/
theorem Reads.read_eq {g : Goal} (h : Reads n g t a r) (bound : Nat)
    (hbound : g.bound t.length ≤ bound) : g.read bound n t = .ok (a, r) := by
  obtain ⟨bound, rfl⟩ := Nat.exists_eq_add_one.2 (h.bound_pos.trans_le hbound)
  induction h generalizing bound with
  | scalar hblanks h => simp only [Goal.read, readAny, hblanks, h]
  | array hblanks h ih | object hblanks h ih =>
    have hlength := length_of_skipBlanks hblanks
    simp only [List.length_cons, Goal.bound] at hlength hbound ih
    obtain ⟨bound, rfl⟩ : ∃ m, bound = m + 1 := Nat.exists_eq_add_one.2 (by omega)
    rw [← ih bound (by omega)]
    simp only [Goal.read, readAny, hblanks]
    rfl
  | itemsEnd h => simp only [Goal.read, readItems, h]
  | item hnext hvalue hrest ihvalue ihrest =>
    obtain ⟨c, tail, rfl, -, hbefore⟩ := nextItem_eq_item_iff.1 hnext
    have hnextLength := hbefore.length_le
    have hvalueLength := hvalue.length_lt
    simp only [Goal.bound] at hbound ihvalue ihrest
    obtain ⟨bound, rfl⟩ : ∃ m, bound = m + 1 := Nat.exists_eq_add_one.2 (by omega)
    have hvalue := ihvalue bound (by omega)
    have hrest := ihrest bound (by omega)
    simp only [Goal.read] at hvalue hrest
    rw [Goal.read, readItems]
    simp only [hnext, hvalue, hrest]
  | membersEnd h => simp only [Goal.read, readMembers, h]
  | member hnext hkey hvalue hrest ihvalue ihrest =>
    have hnextLength := (nextKey_eq_item_iff.1 hnext).length_le
    have hkeyLength := length_of_scanKey hkey
    have hvalueLength := hvalue.length_lt
    simp only [Goal.bound, List.length_cons] at hbound ihvalue ihrest hnextLength
    obtain ⟨bound, rfl⟩ : ∃ m, bound = m + 1 := Nat.exists_eq_add_one.2 (by omega)
    have hvalue := ihvalue bound (by omega)
    have hrest := ihrest bound (by omega)
    simp only [Goal.read] at hvalue hrest
    rw [Goal.read, readMembers]
    simp only [hnext, hkey, hvalue, hrest]

end SearchGateway.Json
