import Mathlib.Data.Bool.AllAny
import Mathlib.Data.List.TakeDrop
import Mathlib.Data.List.TakeWhile
import SearchGateway.Wire.Client

/-!
# The last segment of a path

A text that ends with a slash and a word, and has neither a query nor a fragment before it, is read
as a URL whose path ends with that word: nothing in a word is escaped, resolved or taken for a mark
(`lastSegment_of_target`). What stands before the slash may be any text of which a request can be
sent at all; it may lose its blanks, its user and its dot segments, but not the slash.

The slash is not the one behind the scheme as long as a segment stands between, so the statements
are about texts of the form `stem/segment/word`.
-/

namespace SearchGateway.Wire

open Text (splitOnAny)

/-! ## Words -/

/-- A letter or digit of ASCII, or the underscore. -/
def isWordChar (c : Char) : Bool := c.isAlphanum || c == '_'

/-- A text of such characters, at least one. -/
def IsWord (cs : List Char) : Prop := cs ≠ [] ∧ ∀ c ∈ cs, isWordChar c = true

variable {c x : Char} {cs word : List Char}

/-- A character of a word is none of those that are not. -/
theorem ne_of_isWordChar (hc : isWordChar c = true) (hx : isWordChar x = false) : c ≠ x := by
  rintro rfl
  rw [hc] at hx
  cases hx

/-- The characters of words, by their numbers. -/
theorem isWordChar_iff : isWordChar c = true ↔
    (65 ≤ c.toNat ∧ c.toNat ≤ 90) ∨ (97 ≤ c.toNat ∧ c.toNat ≤ 122) ∨
      (48 ≤ c.toNat ∧ c.toNat ≤ 57) ∨ c = '_' := by
  have hupper : c.isUpper = true ↔ 65 ≤ c.toNat ∧ c.toNat ≤ 90 := decide_eq_true_iff
  have hlower : c.isLower = true ↔ 97 ≤ c.toNat ∧ c.toNat ≤ 122 :=
    Bool.and_eq_true_iff.trans (and_congr decide_eq_true_iff decide_eq_true_iff)
  have hdigit : c.isDigit = true ↔ 48 ≤ c.toNat ∧ c.toNat ≤ 57 :=
    Bool.and_eq_true_iff.trans (and_congr decide_eq_true_iff decide_eq_true_iff)
  have halpha : c.isAlpha = (c.isUpper || c.isLower) := rfl
  rw [isWordChar, Char.isAlphanum, halpha, Bool.or_eq_true, Bool.or_eq_true, Bool.or_eq_true,
    hupper, hlower, hdigit, beq_iff_eq, or_assoc, or_assoc]

/-- A character of a word is printable. -/
theorem bounds_of_isWordChar (hc : isWordChar c = true) : 0x20 < c.toNat ∧ c.toNat < 0x7F := by
  rcases isWordChar_iff.1 hc with h | h | h | rfl
  · omega
  · omega
  · omega
  · decide

/-- No character of a word is a mark of URLs. -/
theorem not_contains_of_isWordChar {marks : String} (h : ∀ m ∈ marks.toList, isWordChar m = false)
    (hc : isWordChar c = true) : marks.toList.contains c = false := by
  rw [Bool.eq_false_iff, Ne, List.contains_iff_mem]
  intro hmem
  exact ne_of_isWordChar hc (h c hmem) rfl

/-! ## Dropping and splitting -/

/-- Dropping stops at the latest at a character that stays. -/
theorem exists_dropWhile_append {p : Char → Bool} (hx : p x = false) (l r : List Char) :
    ∃ l', l' <:+ l ∧ (l ++ x :: r).dropWhile p = l' ++ x :: r := by
  refine ⟨l.dropWhile p, List.dropWhile_suffix p, ?_⟩
  have hstop : (x :: r).dropWhile p = x :: r := List.dropWhile_cons_of_neg (by simp [hx])
  rw [List.dropWhile_append, hstop]
  split
  · next hnil => rw [List.isEmpty_iff.1 hnil, List.nil_append]
  · rfl

/-- A part that ends at a mark ends at the latest at the first one that is known. -/
theorem exists_span_append {p : Char → Bool} (hx : p x = false) (l r : List Char) :
    ∃ l₁ l₂, l₁ ++ l₂ = l ∧ (l ++ x :: r).span p = (l₁, l₂ ++ x :: r) := by
  have hstop : (x :: r).dropWhile p = x :: r := List.dropWhile_cons_of_neg (by simp [hx])
  have htake : (x :: r).takeWhile p = [] := List.takeWhile_cons_of_neg (by simp [hx])
  refine ⟨l.takeWhile p, l.dropWhile p, List.takeWhile_append_dropWhile, ?_⟩
  rw [List.span_eq_takeWhile_dropWhile, List.takeWhile_append, List.dropWhile_append, hstop, htake,
    List.append_nil]
  refine Prod.ext ?_ ?_
  · dsimp only
    split
    · next hall => exact ((List.takeWhile_prefix p).eq_of_length hall).symm
    · rfl
  · dsimp only
    split
    · next hnil => rw [List.isEmpty_iff.1 hnil, List.nil_append]
    · rfl

/-- Where no mark is, nothing is split off. -/
theorem before_eq_self {stop : Char → Bool} (h : ∀ c ∈ cs, stop c = false) :
    Url.before stop cs = (cs, []) := by
  have hall : ∀ c ∈ cs, (!stop c) = true := fun c hc => by simp [h c hc]
  rw [Url.before, List.span_eq_takeWhile_dropWhile, List.takeWhile_eq_self_iff.2 hall,
    List.dropWhile_eq_nil_iff.2 hall]

/-- A text without separators is one part. -/
theorem splitOnAny_eq_singleton {sep : Char → Bool} (hcs : ∀ c ∈ cs, sep c = false) :
    splitOnAny sep cs = [cs] := by
  induction cs with
  | nil => rfl
  | cons c cs ih =>
    obtain ⟨hc, hcs⟩ := List.forall_mem_cons.1 hcs
    simp only [splitOnAny, ih hcs, hc, Bool.false_eq_true, if_false]

/-- The last part of a text is what stands behind its last separator. -/
theorem exists_splitOnAny_append {sep : Char → Bool} (hx : sep x = true)
    (hcs : ∀ c ∈ cs, sep c = false) (l : List Char) :
    ∃ part parts, splitOnAny sep (l ++ x :: cs) = part :: parts ++ [cs] := by
  induction l with
  | nil => exact ⟨[], [], by simp [splitOnAny, splitOnAny_eq_singleton hcs, hx]⟩
  | cons c l ih =>
    obtain ⟨part, parts, hsplit⟩ := ih
    simp only [List.cons_append] at hsplit ⊢
    simp only [splitOnAny, hsplit]
    split
    · exact ⟨[], part :: parts, rfl⟩
    · exact ⟨c :: part, parts, rfl⟩

/-! ## Last segments -/

/-- What stands behind the last slash of a text. -/
def lastSegment (s : String) : String :=
  .ofList (s.toList.reverse.takeWhile (· != '/')).reverse

/-- A word behind a slash is the last segment. -/
theorem lastSegment_append (hword : IsWord word) (s : String) :
    lastSegment (s ++ "/" ++ .ofList word) = .ofList word := by
  have hslash : ∀ c ∈ word.reverse, (c != '/') = true := by
    intro c hc
    simpa using ne_of_isWordChar (hword.2 c (List.mem_reverse.1 hc)) (by decide)
  have htext : (s ++ "/" ++ .ofList word).toList.reverse =
      word.reverse ++ '/' :: s.toList.reverse := by simp
  have hstop : ('/' :: s.toList.reverse).takeWhile (· != '/') = [] :=
    List.takeWhile_cons_of_neg (by simp)
  rw [lastSegment, htext, List.takeWhile_append_of_pos hslash, hstop, List.append_nil,
    List.reverse_reverse]

/-- The small letter of a character of a word is one. -/
theorem isWordChar_toLower (hc : isWordChar c = true) : isWordChar c.toLower = true := by
  have hall : ∀ n < 0x7F, isWordChar (.ofNat n) = true →
      isWordChar (Char.toLower (.ofNat n)) = true := by decide
  have hlower := hall c.toNat (bounds_of_isWordChar hc).2
  rw [Char.ofNat_toNat] at hlower
  exact hlower hc

/-- A word is no dot segment. -/
theorem not_dots_of_isWord (hword : IsWord word) :
    Url.isSingleDot word = false ∧ Url.isDoubleDot word = false := by
  -- dot segments start with a point or a percent sign
  have hne : ∀ s : String, s.toList.head?.any isWordChar = false →
      (String.ofList (word.map Char.toLower) == s) = false := by
    intro s hs
    rw [beq_eq_false_iff_ne]
    rintro rfl
    cases word with
    | nil => exact hword.1 rfl
    | cons c cs => simp [isWordChar_toLower (hword.2 c List.mem_cons_self)] at hs
  constructor
  · simp only [Url.isSingleDot, Bool.or_eq_false_iff]
    exact ⟨hne "." (by decide), hne "%2e" (by decide)⟩
  · simp only [Url.isDoubleDot, Bool.or_eq_false_iff]
    exact ⟨⟨⟨hne ".." (by decide), hne ".%2e" (by decide)⟩, hne "%2e." (by decide)⟩,
      hne "%2e%2e" (by decide)⟩

/-- Resolving dot segments keeps a word at the end. -/
theorem exists_resolve_append (hword : IsWord word) (segments before : List (List Char)) :
    ∃ resolved, Url.resolve false before (segments ++ [word]) = resolved ++ [word] := by
  obtain ⟨hsingle, hdouble⟩ := not_dots_of_isWord hword
  induction segments generalizing before with
  | nil =>
    refine ⟨before.reverse, ?_⟩
    simp [Url.resolve, hsingle, hdouble]
  | cons segment segments ih =>
    rw [List.cons_append, Url.resolve]
    split
    · exact ih _
    · split
      · exact ih _
      · exact ih _

/-- A word is not escaped. -/
theorem escapeAll_of_isWord (hword : IsWord word) :
    escapeAll Url.pathReserved word = .ofList word := by
  have hreserved : ∀ m ∈ Url.pathReserved.toList, isWordChar m = false :=
    List.all_iff_forall_prop.1 (by decide)
  have hplain : ∀ cs : List Char, (∀ c ∈ cs, isWordChar c = true) → ∀ out : String,
      cs.foldl (fun out c => out ++
        if c.toNat < 0x20 ∨ 0x7E < c.toNat ∨ Url.pathReserved.toList.contains c then escaped c
        else c.toString) out = out ++ .ofList cs := by
    intro cs hcs
    induction cs with
    | nil => simp
    | cons c cs ih =>
      obtain ⟨hc, hcs⟩ := List.forall_mem_cons.1 hcs
      obtain ⟨hlow, hhigh⟩ := bounds_of_isWordChar hc
      have hkept : ¬(c.toNat < 0x20 ∨ 0x7E < c.toNat ∨
          Url.pathReserved.toList.contains c = true) := by
        rw [not_contains_of_isWordChar hreserved hc]
        simp only [Bool.false_eq_true, or_false]
        omega
      intro out
      rw [List.foldl_cons, if_neg hkept, ih hcs, String.ofList_cons, String.append_assoc]
      rfl
  rw [escapeAll, hplain word hword.2, String.empty_append]

/-- A path of resolved segments ends with the last one, if this is a word. -/
theorem exists_pathText_append (hword : IsWord word) (segments : List (List Char)) :
    ∃ s, Url.pathText (segments ++ [word]) = s ++ "/" ++ .ofList word := by
  rw [Url.pathText, List.map_append, List.map_singleton, escapeAll_of_isWord hword]
  rcases List.eq_nil_or_concat segments with rfl | ⟨segments, segment, rfl⟩
  · exact ⟨"", by simp⟩
  · rw [String.intercalate_append_of_ne_nil (by simp) (by simp), String.intercalate_singleton]
    exact ⟨_, by rw [← String.append_assoc, ← String.append_assoc]⟩

/-- A path that ends with a slash and a word, or is a word, has it as its last segment. -/
theorem lastSegment_absolutePath (hword : IsWord word) {path : List Char}
    (hpath : path = word ∨ ∃ l, path = l ++ '/' :: word) :
    lastSegment (Url.absolutePath true path) = .ofList word := by
  have hmarks : ∀ c ∈ word, (c == '/' || (true && c == '\\')) = false := by
    intro c hc
    have hslash := ne_of_isWordChar (x := '/') (hword.2 c hc) (by decide)
    have hback := ne_of_isWordChar (x := '\\') (hword.2 c hc) (by decide)
    simp [hslash, hback]
  have hsplit : ∃ parts, splitOnAny (fun c => c == '/' || (true && c == '\\')) path =
      parts ++ [word] := by
    rcases hpath with rfl | ⟨l, rfl⟩
    · exact ⟨[], splitOnAny_eq_singleton hmarks⟩
    · obtain ⟨part, parts, hsplit⟩ := exists_splitOnAny_append (x := '/') (by rfl) hmarks l
      exact ⟨part :: parts, hsplit⟩
  obtain ⟨parts, hsplit⟩ := hsplit
  obtain ⟨resolved, hresolve⟩ := exists_resolve_append hword parts []
  obtain ⟨s, htext⟩ := exists_pathText_append hword resolved
  rw [Url.absolutePath, hsplit, hresolve, htext, lastSegment_append hword]

/-! ## Authorities -/

/-- A text without a query and a fragment. -/
def IsPathText (cs : List Char) : Prop := ∀ c ∈ cs, c ≠ '?' ∧ c ≠ '#'

/-- A word has neither query nor fragment. -/
theorem IsWord.isPathText (hword : IsWord word) : IsPathText word := fun c hc =>
  ⟨ne_of_isWordChar (hword.2 c hc) (by decide), ne_of_isWordChar (hword.2 c hc) (by decide)⟩

/-- A path text in front of another and a slash makes one. -/
theorem IsPathText.append_slash {stem rest : List Char} (hstem : IsPathText stem)
    (hrest : IsPathText rest) : IsPathText (stem ++ '/' :: rest) := by
  intro c hc
  rcases List.mem_append.1 hc with hc | hc
  · exact hstem c hc
  · rcases List.mem_cons.1 hc with rfl | hc
    · decide
    · exact hrest c hc

/-- What stands behind the user is part of the authority. -/
theorem splitUser_subset (cs : List Char) : (Url.splitUser cs).2 ⊆ cs := by
  rw [Url.splitUser]
  split
  · exact List.Subset.refl cs
  · intro c hc
    have hmem : c ∈ cs.reverse :=
      (List.takeWhile_prefix _).subset (List.mem_reverse.1 hc)
    exact List.mem_reverse.1 hmem

/-- A port is part of what names it. -/
theorem splitPort_subset {inBrackets : Bool} {port : List Char}
    (hport : (Url.splitPort inBrackets cs).2 = some port) : port ⊆ cs := by
  induction cs generalizing inBrackets with
  | nil => cases hport
  | cons c cs ih =>
    rw [Url.splitPort] at hport
    split at hport
    · cases hport
      exact List.subset_cons_self c _
    · exact List.Subset.trans (ih hport) (List.subset_cons_self c cs)

/-- What follows the digits of a port is part of it. -/
theorem port?_subset {implied : Option Nat} {text : Option (List Char)} {port : Option Nat}
    {rest : List Char} (h : Url.port? implied text = some (port, rest)) :
    rest ⊆ text.getD [] := by
  cases text with
  | none =>
    cases h
    exact List.Subset.refl []
  | some cs =>
    simp only [Url.port?, List.span_eq_takeWhile_dropWhile, Option.bind_eq_bind,
      Option.bind_eq_some_iff] at h
    obtain ⟨n, -, h⟩ := h
    split at h
    · cases h
    · cases h
      exact (List.dropWhile_suffix _).subset

/-- Whether an authority ends before a character, where backslashes count as slashes. -/
def endsAuthority (c : Char) : Bool := c == '/' || c == '\\' || c == '?' || c == '#'

/-- The path of a URL with an authority, in the schemes that imply a port, is read from what stands
between the authority and the query; it may start with the end of what stands for the port. -/
theorem exists_path_of_ofAuthority? {scheme : String} {implied : Nat} {authority rest : List Char}
    {u : Url} (hbefore : Url.before endsAuthority cs = (authority, rest))
    (hu : Url.ofAuthority? scheme (some implied) cs = some u) :
    ∃ start, start ⊆ authority ∧
      u.path = Url.absolutePath true
        (Url.behindSlash (Url.before (fun c => c == '?' || c == '#') (start ++ rest)).1) := by
  unfold Url.ofAuthority? at hu
  have hstop : (fun c : Char => (c == '/' || ((some implied).isSome && c == '\\')) || c == '?' ||
      c == '#') = endsAuthority := rfl
  dsimp only at hu
  rw [hstop, hbefore] at hu
  split at hu
  · cases hu
  · obtain ⟨host, -, hu⟩ := Option.bind_eq_some_iff.1 hu
    split at hu
    · cases hu
    · obtain ⟨⟨port, start⟩, hport, hu⟩ := Option.bind_eq_some_iff.1 hu
      cases hu
      refine ⟨start, ?_, if_neg (by simp)⟩
      refine List.Subset.trans (port?_subset hport) ?_
      cases hsplit : (Url.splitPort false (Url.splitUser authority).2).2 with
      | none => exact List.nil_subset _
      | some text => exact List.Subset.trans (splitPort_subset hsplit) (splitUser_subset authority)

/-- A URL with an authority, in the schemes that imply a port, has the word at the end of its text
as the last segment of its path. -/
theorem lastSegment_ofAuthority? (hword : IsWord word) {scheme : String} {implied : Nat}
    {stem : List Char} {u : Url} (hstem : IsPathText stem)
    (hu : Url.ofAuthority? scheme (some implied) (stem ++ '/' :: word) = some u) :
    lastSegment u.path = .ofList word := by
  obtain ⟨authority, stem', rfl, hbefore⟩ := exists_span_append
    (p := fun c => !endsAuthority c) (x := '/') (by rfl) stem word
  obtain ⟨start, hstart, hpath⟩ := exists_path_of_ofAuthority? hbefore hu
  have hfront : IsPathText (start ++ stem') := by
    intro c hc
    rcases List.mem_append.1 hc with hc | hc
    · exact hstem c (List.mem_append_left _ (hstart hc))
    · exact hstem c (List.mem_append_right _ hc)
  have hmarks : ∀ c ∈ start ++ (stem' ++ '/' :: word), (c == '?' || c == '#') = false := by
    intro c hc
    rw [← List.append_assoc] at hc
    simpa using hfront.append_slash hword.isPathText c hc
  rw [hpath, before_eq_self hmarks]
  refine lastSegment_absolutePath hword ?_
  rw [Url.behindSlash, ← List.append_assoc]
  cases start ++ stem' with
  | nil => exact .inl rfl
  | cons c cs =>
    right
    split
    · exact ⟨cs, rfl⟩
    · exact ⟨c :: cs, rfl⟩

/-! ## Texts -/

/-- A URL with an authority has the scheme that it is read with, if this implies no port. -/
theorem scheme_of_ofAuthority? {scheme : String} {u : Url}
    (hu : Url.ofAuthority? scheme none cs = some u) : u.scheme = scheme := by
  unfold Url.ofAuthority? at hu
  dsimp only at hu
  split at hu
  · cases hu
  · obtain ⟨host, -, hu⟩ := Option.bind_eq_some_iff.1 hu
    split at hu
    · cases hu
    · obtain ⟨port, -, hu⟩ := Option.bind_eq_some_iff.1 hu
      cases hu
      rfl

/-- A URL of files has no other scheme. -/
theorem scheme_of_ofFile? {u : Url} (hu : Url.ofFile? cs = some u) : u.scheme = "file" := by
  have hhost : ∀ cs, Url.ofFileHost? cs = some u → u.scheme = "file" := by
    intro cs hu
    unfold Url.ofFileHost? at hu
    dsimp only at hu
    split at hu
    · cases hu
      rfl
    · obtain ⟨host, -, rfl⟩ := Option.map_eq_some_iff.1 hu
      split <;> rfl
  unfold Url.ofFile? at hu
  split at hu
  · split at hu
    · exact hhost _ hu
    · cases hu
      rfl
  · cases hu
    rfl

/-- What requests are sent to has an authority, read from what stands behind the slashes after the
scheme. -/
theorem exists_ofAuthority?_of_isWeb {s : String} {u : Url} (hu : Url.ofText? s = some u)
    (hweb : u.isWeb = true) :
    ∃ scheme implied rest, Url.scheme? (Url.cleaned s) = some (scheme, rest) ∧
      Url.ofAuthority? scheme (some implied) (rest.dropWhile Url.isAnySlash) = some u := by
  unfold Url.ofText? at hu
  obtain ⟨⟨scheme, rest⟩, hscheme, hu⟩ := Option.bind_eq_some_iff.1 hu
  dsimp only at hu
  split at hu
  · next implied himplied => exact ⟨scheme, implied, rest, hscheme, hu⟩
  · next himplied =>
    exfalso
    have hscheme : u.scheme = scheme := by
      split at hu
      · next hfile =>
        rw [hfile]
        exact scheme_of_ofFile? hu
      · split at hu
        · exact scheme_of_ofAuthority? hu
        · cases hu
          rfl
    rw [Url.isWeb, hscheme, Bool.or_eq_true, beq_iff_eq, beq_iff_eq] at hweb
    rcases hweb with rfl | rfl <;> cases himplied

/-- Cleaning leaves a slash and what follows it, if there is no blank or control in it. -/
theorem exists_cleaned_eq {s : String} {stem tail : List Char}
    (hs : s.toList = stem ++ '/' :: tail) (hne : tail ≠ []) (htail : ∀ c ∈ tail, 0x20 < c.toNat) :
    ∃ stem', stem' ⊆ stem ∧ Url.cleaned s = stem' ++ '/' :: tail := by
  obtain ⟨front, hfront, hdrop⟩ := exists_dropWhile_append
    (p := fun c => decide (c.toNat ≤ 0x20)) (x := '/') (by decide) stem tail
  have hend : (front ++ '/' :: tail).reverse.dropWhile (fun c => decide (c.toNat ≤ 0x20)) =
      (front ++ '/' :: tail).reverse := by
    obtain rfl | ⟨init, c, rfl⟩ := List.eq_nil_or_concat tail
    · exact absurd rfl hne
    · have hc : 0x20 < c.toNat := htail c (by simp)
      simp [Nat.not_le.2 hc]
  have hkept : ∀ c ∈ '/' :: tail, (!(c == '\t' || c == '\n' || c == '\r')) = true := by
    intro d hd
    rcases List.mem_cons.1 hd with rfl | hd
    · decide
    · have hprintable := htail d hd
      simp only [Bool.not_eq_true', Bool.or_eq_false_iff, beq_eq_false_iff_ne]
      refine ⟨⟨?_, ?_⟩, ?_⟩ <;> rintro rfl <;> exact absurd hprintable (by decide)
  refine ⟨front.filter fun c => !(c == '\t' || c == '\n' || c == '\r'),
    fun d hd => hfront.subset (List.mem_filter.1 hd).1, ?_⟩
  unfold Url.cleaned
  dsimp only
  rw [hs, hdrop, hend, List.reverse_reverse, List.filter_append, List.filter_eq_self.2 hkept]

/-- The scheme and its colon stand before the first slash. -/
theorem exists_rest_of_scheme? {stem tail rest : List Char} {scheme : String}
    (h : Url.scheme? (stem ++ '/' :: tail) = some (scheme, rest)) :
    ∃ stem', stem' ⊆ stem ∧ rest = stem' ++ '/' :: tail := by
  obtain ⟨name, stem', rfl, hspan⟩ := exists_span_append
    (p := fun c => c.isAlphanum || c == '+' || c == '-' || c == '.') (x := '/') (by decide) stem
    tail
  unfold Url.scheme? at h
  rw [hspan] at h
  cases name with
  | nil => cases h
  | cons first name =>
    cases stem' with
    | nil => cases h
    | cons mark stem' =>
      simp only [List.cons_append] at h
      split at h
      · next hparts =>
        cases hparts
        split at h
        · cases h
          exact ⟨stem', fun c hc => by simp [hc], rfl⟩
        · cases h
      · cases h

/-- A URL that requests are sent to, read from a text without query and fragment that ends with a
segment and a word, has the word as the last segment of its path. -/
theorem lastSegment_ofText? (hword : IsWord word) {s : String} {stem segment : List Char} {c : Char}
    {u : Url} (hs : s.toList = stem ++ '/' :: (c :: segment ++ '/' :: word))
    (hstem : IsPathText stem) (hsegment : IsPathText (c :: segment))
    (hprintable : ∀ d ∈ c :: segment, 0x20 < d.toNat) (hc : Url.isAnySlash c = false)
    (hu : Url.ofText? s = some u) (hweb : u.isWeb = true) :
    lastSegment u.path = .ofList word := by
  have htail : ∀ d ∈ c :: segment ++ '/' :: word, 0x20 < d.toNat := by
    intro d hd
    rcases List.mem_append.1 hd with hd | hd
    · exact hprintable d hd
    · rcases List.mem_cons.1 hd with rfl | hd
      · decide
      · exact (bounds_of_isWordChar (hword.2 d hd)).1
  obtain ⟨scheme, implied, rest, hscheme, hauthority⟩ := exists_ofAuthority?_of_isWeb hu hweb
  obtain ⟨stem', hsub, hcleaned⟩ := exists_cleaned_eq hs (by simp) htail
  obtain ⟨stem'', hsub'', rfl⟩ := exists_rest_of_scheme? (hcleaned ▸ hscheme)
  obtain ⟨front, hfront, hdrop⟩ := exists_dropWhile_append hc (stem'' ++ ['/'])
    (segment ++ '/' :: word)
  have hassoc : stem'' ++ '/' :: (c :: segment ++ '/' :: word) =
      stem'' ++ ['/'] ++ c :: (segment ++ '/' :: word) := by simp
  rw [hassoc, hdrop] at hauthority
  have hassoc' : front ++ c :: (segment ++ '/' :: word) = front ++ c :: segment ++ '/' :: word := by
    simp
  rw [hassoc'] at hauthority
  refine lastSegment_ofAuthority? hword ?_ hauthority
  intro d hd
  rcases List.mem_append.1 hd with hd | hd
  · rcases List.mem_append.1 (hfront.subset hd) with hd | hd
    · exact hstem d (hsub (hsub'' hd))
    · rw [List.mem_singleton.1 hd]
      decide
  · exact hsegment d hd

/-! ## Targets -/

/-- A URL keeps its path when its user is taken off. -/
theorem path_withoutUser (u : Url) : u.withoutUser.path = u.path := by
  unfold Url.withoutUser
  split
  · rfl
  · split <;> rfl

/-- A URL keeps its scheme when its user is taken off. -/
theorem isWeb_withoutUser (u : Url) : u.withoutUser.isWeb = u.isWeb := by
  unfold Url.withoutUser
  split
  · rfl
  · split <;> rfl

/-- What a request goes to is its URL without the user, in one of the two schemes of the web. -/
theorem exists_ofText?_of_target {r : Request} {url : Url} (h : r.target = .ok url) :
    ∃ u, Url.ofText? r.url = some u ∧ url = u.withoutUser ∧ u.isWeb = true := by
  unfold Request.target at h
  split at h
  · cases h
  · next target htarget =>
    obtain ⟨u, hu, rfl⟩ := Option.map_eq_some_iff.1 htarget
    split at h
    · cases h
    · split at h
      · cases h
      · split at h
        · cases h
        · next hsendable =>
          cases h
          refine ⟨u, hu, rfl, ?_⟩
          simp only [Bool.not_eq_true', Bool.not_eq_false, Url.isSendable, Bool.and_eq_true]
            at hsendable
          exact isWeb_withoutUser u ▸ hsendable.1.1

/-- A request whose URL is composed of a text without query and fragment, a segment and a word goes
to a path with the word as its last segment. -/
theorem lastSegment_of_target (hword : IsWord word) {r : Request} {stem segment : List Char}
    {c : Char} {url : Url} (hurl : r.url.toList = stem ++ '/' :: (c :: segment ++ '/' :: word))
    (hstem : IsPathText stem) (hsegment : IsPathText (c :: segment))
    (hprintable : ∀ d ∈ c :: segment, 0x20 < d.toNat) (hc : Url.isAnySlash c = false)
    (htarget : r.target = .ok url) : lastSegment url.path = .ofList word := by
  obtain ⟨u, hu, rfl, hweb⟩ := exists_ofText?_of_target htarget
  rw [path_withoutUser]
  exact lastSegment_ofText? hword hurl hstem hsegment hprintable hc hu hweb

end SearchGateway.Wire
