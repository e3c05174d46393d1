import Mathlib.Data.Bool.AllAny
import Mathlib.Data.List.TakeWhile
import SearchGateway.Proofs.Settings.Layers
import SearchGateway.Proofs.Text.LowerCase
import SearchGateway.Settings.Load

/-!
# Variables as a layer

A variable `HYBRID_SEARCH_<SECTION>__<KEY>`, in any case, says one thing about one setting: that it
is the variable's text (`NameSettings.sayings_entry`). So where no two such variables are equal up
to case, a setting that has one is its text whatever is below, and any other setting is left alone
(`NameSettings.foldl_sayings`).

Sections and keys are names (`isName`): small letters and digits, which single underscores may stand
before. Two underscores are thus only found between a section and a key.
-/

namespace SearchGateway.Settings

/-! ## Names -/

/-- A small letter or a digit. -/
def isNameLetter (c : Char) : Bool := c.isLower || c.isDigit

/-- A name in lower case: letters and digits, and underscores each of which stands before one. -/
def isName : List Char → Bool
  | [] => false
  | [c] => isNameLetter c
  | c :: d :: cs => (isNameLetter c || (c == '_' && d != '_')) && isName (d :: cs)

variable {c : Char} {cs rest : List Char} {part key : String}

/-- A small letter or a digit is no capital, and names of fields may have it. -/
theorem isNameLetter_cases (hc : isNameLetter c = true) :
    c.toNat < 128 ∧ c.toLower = c ∧ isNameChar c = true ∧ c ≠ '_' := by
  have hbound : c.toNat < 128 := by
    have hlower : c.isLower = true ↔ 97 ≤ c.toNat ∧ c.toNat ≤ 122 :=
      Bool.and_eq_true_iff.trans (and_congr decide_eq_true_iff decide_eq_true_iff)
    have hdigit : c.isDigit = true ↔ 48 ≤ c.toNat ∧ c.toNat ≤ 57 :=
      Bool.and_eq_true_iff.trans (and_congr decide_eq_true_iff decide_eq_true_iff)
    rw [isNameLetter, Bool.or_eq_true, hlower, hdigit] at hc
    omega
  have hall : ∀ n < 128, isNameLetter (.ofNat n) = true → Char.toLower (.ofNat n) = .ofNat n ∧
      isNameChar (.ofNat n) = true ∧ Char.ofNat n ≠ '_' := by decide
  have hcases := hall c.toNat hbound
  rw [Char.ofNat_toNat] at hcases
  exact ⟨hbound, hcases hc⟩

/-- The characters of a name are not changed in lower case, and names of fields may have them. -/
theorem forall_mem_of_isName (h : isName cs = true) :
    ∀ c ∈ cs, c.toNat < 128 ∧ c.toLower = c ∧ isNameChar c = true := by
  have hletter : ∀ c : Char, isNameLetter c = true →
      c.toNat < 128 ∧ c.toLower = c ∧ isNameChar c = true := by
    intro c hc
    obtain ⟨hbound, hlower, hchar, -⟩ := isNameLetter_cases hc
    exact ⟨hbound, hlower, hchar⟩
  fun_induction isName cs with
  | case1 => cases h
  | case2 c => simpa using hletter c h
  | case3 c d cs ih =>
    obtain ⟨hc, hrest⟩ := Bool.and_eq_true_iff.1 h
    refine List.forall_mem_cons.2 ⟨?_, ih hrest⟩
    rcases Bool.or_eq_true_iff.1 hc with hc | hc
    · exact hletter c hc
    · rw [eq_of_beq (Bool.and_eq_true_iff.1 hc).1]
      decide

/-- A name is its own lower case. -/
theorem named_of_isName (h : isName cs = true) : Step.named cs = .field (.ofList cs) := by
  have hchars := forall_mem_of_isName h
  rw [Step.named, Text.lowerCase_of_ascii, String.toList_ofList,
    List.map_congr_left (g := id) fun c hc => (hchars c hc).2.1, List.map_id]
  intro c hc
  rw [String.toList_ofList] at hc
  exact (hchars c hc).1

/-- A character stays unless it and the next one are underscores. -/
theorem pointed_cons (h : ¬(c = '_' ∧ rest.head? = some '_')) :
    pointed (c :: rest) = c :: pointed rest := by
  rw [pointed]
  rintro rest' rfl rfl
  exact h ⟨rfl, rfl⟩

/-- In a name nothing is read as a point. -/
theorem pointed_append (h : isName cs = true) (rest : List Char) :
    pointed (cs ++ rest) = cs ++ pointed rest := by
  fun_induction isName cs with
  | case1 => cases h
  | case2 c => exact pointed_cons fun hboth => (isNameLetter_cases h).2.2.2 hboth.1
  | case3 c d cs ih =>
    obtain ⟨hc, hrest⟩ := Bool.and_eq_true_iff.1 h
    have hkept : ¬(c = '_' ∧ (d :: cs ++ rest).head? = some '_') := by
      rintro ⟨rfl, hd⟩
      cases hd
      cases hc
    rw [List.cons_append, pointed_cons hkept, ih hrest]
    rfl

/-! ## Places -/

/-- A section and a key with a point between them lead to the setting. -/
theorem placeOf_setting (hpart : isName part.toList = true) (hkey : isName key.toList = true) :
    placeOf (part ++ "." ++ key) = [.field part, .field key] := by
  have hne : ∀ {s : String}, isName s.toList = true → s.toList.isEmpty = false := by
    intro s hs
    cases hchars : s.toList with
    | nil => rw [hchars] at hs; cases hs
    | cons c cs => rfl
  have hpartChars : ∀ c ∈ part.toList, isNameChar c = true := fun c hc =>
    (forall_mem_of_isName hpart c hc).2.2
  have hkeyChars : ∀ c ∈ key.toList, isNameChar c = true := fun c hc =>
    (forall_mem_of_isName hkey c hc).2.2
  have hchars : (part ++ "." ++ key).toList = part.toList ++ '.' :: key.toList := by simp
  have hfirst : (part.toList ++ '.' :: key.toList).takeWhile isNameChar = part.toList := by
    rw [List.takeWhile_append_of_pos hpartChars, List.takeWhile_cons_of_neg (by decide),
      List.append_nil]
  have hfurther : furtherSteps? (part.toList ++ '.' :: key.toList).length ('.' :: key.toList) =
      some [.field key] := by
    rw [List.length_append, List.length_cons, ← Nat.add_assoc, furtherSteps?,
      List.takeWhile_eq_self_iff.2 hkeyChars, hne hkey, List.drop_length,
      named_of_isName hkey, String.ofList_toList]
    cases part.toList.length + key.toList.length <;> rfl
  unfold placeOf
  dsimp only
  rw [hchars, hfirst, hne hpart, List.drop_left, hfurther, named_of_isName hpart,
    String.ofList_toList]
  rfl

/-- The name of the variable of a setting, in lower case. -/
def variableName (part key : String) : String := "hybrid_search_" ++ part ++ "__" ++ key

/-- The text behind a start is what stands behind it. -/
theorem behind?_append (start cs : List Char) : behind? start (start ++ cs) = some cs := by
  induction start with
  | nil => rfl
  | cons c start ih => rw [List.cons_append, behind?, if_pos rfl, ih]

/-- A text that does not have the start has nothing behind it. -/
theorem behind?_eq_none {start cs : List Char} (h : ¬start <+: cs) : behind? start cs = none := by
  induction start generalizing cs with
  | nil => exact absurd List.nil_prefix h
  | cons p start ih =>
    cases cs with
    | nil => rfl
    | cons c cs =>
      rw [behind?]
      split
      · next hp =>
        subst hp
        exact ih fun hprefix => h ((List.prefix_cons_inj p).2 hprefix)
      · rfl

/-- The characters of the name of a variable. -/
theorem toList_variableName (part key : String) : (variableName part key).toList =
    "hybrid_search_".toList ++ (part.toList ++ '_' :: '_' :: key.toList) := by
  -- By `change`, as the equation of `variableName` is slow to make.
  change ("hybrid_search_" ++ part ++ "__" ++ key).toList = _
  simp only [String.toList_append, List.append_assoc]
  rfl

/-- Two underscores lead from a section to a key. -/
theorem pointed_setting (hpart : isName part.toList = true) (hkey : isName key.toList = true) :
    pointed (part.toList ++ '_' :: '_' :: key.toList) = (part ++ "." ++ key).toList := by
  have hkept : pointed key.toList = key.toList := by
    have hpointed := pointed_append hkey []
    rwa [List.append_nil, pointed, List.append_nil] at hpointed
  rw [pointed_append hpart, pointed, hkept]
  simp

/-- Different settings have different variables. -/
theorem variableName_inj {part' key' : String} (hpart : isName part.toList = true)
    (hkey : isName key.toList = true) (hpart' : isName part'.toList = true)
    (hkey' : isName key'.toList = true) (h : variableName part key = variableName part' key') :
    part = part' ∧ key = key' := by
  have hchars := congrArg String.toList h
  rw [toList_variableName, toList_variableName, List.append_cancel_left_eq] at hchars
  have hpointed := congrArg pointed hchars
  rw [pointed_setting hpart hkey, pointed_setting hpart' hkey', String.toList_inj] at hpointed
  have hplace := congrArg placeOf hpointed
  rw [placeOf_setting hpart hkey, placeOf_setting hpart' hkey'] at hplace
  simpa using hplace

/-- The variable of a setting makes an entry for it. -/
theorem settingOf?_of_name {v : String × String} (hpart : isName part.toList = true)
    (hkey : isName key.toList = true) (hv : Text.lowerCase v.1 = variableName part key) :
    settingOf? v = some (part ++ "." ++ key, .string v.2) := by
  rw [settingOf?, hv, toList_variableName, behind?_append, Option.map_some,
    pointed_setting hpart hkey, String.ofList_toList]

/-! ## The layer -/

/-- Variables that are settings are named after a section and a key, and no two of them are equal up
to case. Variables with other names do not matter. -/
structure NameSettings (env : Variables) : Prop where
  named : ∀ v ∈ env, "hybrid_search_".toList <+: (Text.lowerCase v.1).toList →
    ∃ part key, isName part.toList = true ∧ isName key.toList = true ∧
      Text.lowerCase v.1 = variableName part key
  distinct : ∀ v ∈ env, ∀ w ∈ env, "hybrid_search_".toList <+: (Text.lowerCase v.1).toList →
    Text.lowerCase v.1 = Text.lowerCase w.1 → v = w

/-- The text of the variable of a setting. -/
def variableText? (env : Variables) (part key : String) : Option String :=
  (env.find? fun v => Text.lowerCase v.1 == variableName part key).map (·.2)

variable {env : Variables} {below : Option Json}

/-- A variable makes no entry, or one for the setting that it is named after. -/
theorem NameSettings.entry_cases (henv : NameSettings env) {v : String × String} (hv : v ∈ env) :
    (settingOf? v = none ∧ ¬"hybrid_search_".toList <+: (Text.lowerCase v.1).toList) ∨
      ∃ part key, isName part.toList = true ∧ isName key.toList = true ∧
        Text.lowerCase v.1 = variableName part key ∧
        settingOf? v = some (part ++ "." ++ key, .string v.2) := by
  by_cases hprefix : "hybrid_search_".toList <+: (Text.lowerCase v.1).toList
  · obtain ⟨part, key, hpart, hkey, hname⟩ := henv.named v hv hprefix
    exact .inr ⟨part, key, hpart, hkey, hname, settingOf?_of_name hpart hkey hname⟩
  · refine .inl ⟨?_, hprefix⟩
    rw [settingOf?, behind?_eq_none hprefix, Option.map_none]

/-- The name of a variable of a setting starts like all of them. -/
theorem prefix_of_eq_variableName {name : String} (h : name = variableName part key) :
    "hybrid_search_".toList <+: name.toList := by
  rw [h, toList_variableName]
  exact List.prefix_append ..

/-- A setting has the text of the variable that is named after it. -/
theorem NameSettings.variableText?_eq_some (henv : NameSettings env) {v : String × String}
    (hv : v ∈ env) (hname : Text.lowerCase v.1 = variableName part key) :
    variableText? env part key = some v.2 := by
  rw [variableText?]
  cases hfind : env.find? fun v => Text.lowerCase v.1 == variableName part key with
  | none => exact absurd (beq_iff_eq.2 hname) (List.find?_eq_none.1 hfind v hv)
  | some w =>
    have hname' := List.find?_some hfind
    rw [beq_iff_eq] at hname'
    rw [henv.distinct w (List.mem_of_find?_eq_some hfind) v hv (prefix_of_eq_variableName hname')
      (hname'.trans hname.symm), Option.map_some]

/-- A setting that no variable is named after has no text. -/
theorem variableText?_eq_none (h : ∀ v ∈ env, Text.lowerCase v.1 ≠ variableName part key) :
    variableText? env part key = none := by
  rw [variableText?, Option.map_eq_none_iff, List.find?_eq_none]
  exact fun v hv hname => h v hv (beq_iff_eq.1 hname)

/-- A variable has its text to say of the setting that it is named after. -/
theorem NameSettings.sayings_entry (henv : NameSettings env) (hpart : isName part.toList = true)
    (hkey : isName key.toList = true) {v : String × String} (hv : v ∈ env) :
    sayings part key (settingOf? v).toList =
      if Text.lowerCase v.1 = variableName part key then [([], .string v.2)] else [] := by
  rcases henv.entry_cases hv with ⟨hnone, hprefix⟩ | ⟨part', key', hpart', hkey', hname, hentry⟩
  · rw [hnone, if_neg fun hname => hprefix (prefix_of_eq_variableName hname)]
    rfl
  · rw [hentry, Option.toList_some, sayings, List.flatMap_singleton, saidBy,
      placeOf_setting hpart' hkey', hname]
    dsimp only [saidInside]
    by_cases hsame : part' = part ∧ key' = key
    · obtain ⟨rfl, rfl⟩ := hsame
      rw [if_pos rfl, if_pos rfl, if_pos rfl]
    · rw [if_neg fun h => hsame (variableName_inj hpart' hkey' hpart hkey h), ← ite_and,
        if_neg hsame]

/-- The layer of the variables has the text of its variable to say of a setting. -/
theorem NameSettings.sayings_variableLayer (henv : NameSettings env)
    (hpart : isName part.toList = true) (hkey : isName key.toList = true) :
    sayings part key (variableLayer env) =
      (env.filter fun v => Text.lowerCase v.1 == variableName part key).map
        fun v => ([], .string v.2) := by
  have hsome : ∀ vs : List (String × String), (∀ v ∈ vs, v ∈ env) →
      sayings part key (vs.filterMap settingOf?) =
        (vs.filter fun v => Text.lowerCase v.1 == variableName part key).map
          fun v => ([], .string v.2) := by
    intro vs hvs
    induction vs with
    | nil => rfl
    | cons v vs ih =>
      obtain ⟨hv, hvs⟩ := List.forall_mem_cons.1 hvs
      have hcons : (v :: vs).filterMap settingOf? =
          (settingOf? v).toList ++ vs.filterMap settingOf? := by
        cases hentry : settingOf? v with
        | none => rw [List.filterMap_cons_none hentry]; rfl
        | some entry => rw [List.filterMap_cons_some hentry]; rfl
      have hsayings := henv.sayings_entry hpart hkey hv
      rw [sayings] at hsayings ih ⊢
      rw [hcons, List.flatMap_append, hsayings, ih hvs, List.filter_cons]
      by_cases hname : Text.lowerCase v.1 = variableName part key
      · rw [if_pos hname, if_pos (beq_iff_eq.2 hname)]
        rfl
      · rw [if_neg hname, if_neg fun hbeq => hname (beq_iff_eq.1 hbeq)]
        rfl
  exact hsome env fun _ hv => hv

/-- The layer of the variables makes a setting the text of its variable, if there is one. -/
theorem NameSettings.foldl_sayings (henv : NameSettings env) (hpart : isName part.toList = true)
    (hkey : isName key.toList = true) (below : Option Json) :
    (sayings part key (variableLayer env)).foldl lay below =
      ((variableText? env part key).map .string <|> below) := by
  rw [henv.sayings_variableLayer hpart hkey]
  obtain hnone | ⟨before, v, hconcat⟩ := List.eq_nil_or_concat
    (env.filter fun v => Text.lowerCase v.1 == variableName part key)
  · have htext : variableText? env part key = none :=
      variableText?_eq_none fun v hv hname =>
        List.filter_eq_nil_iff.1 hnone v hv (beq_iff_eq.2 hname)
    rw [hnone, htext]
    rfl
  · have hv : v ∈ env.filter fun v => Text.lowerCase v.1 == variableName part key := by
      rw [hconcat]
      simp
    obtain ⟨hv, hname⟩ := List.mem_filter.1 hv
    rw [beq_iff_eq] at hname
    rw [hconcat, List.map_concat, List.concat_eq_append, List.foldl_append,
      henv.variableText?_eq_some hv hname]
    rfl

/-- No variable takes the place of a section. -/
theorem NameSettings.not_replacesSection (henv : NameSettings env) {entry : String × Json}
    (hentry : entry ∈ variableLayer env) (part : String) : ¬ReplacesSection part entry := by
  obtain ⟨v, hv, hentry⟩ := List.mem_filterMap.1 hentry
  rcases henv.entry_cases hv with ⟨hnone, -⟩ | ⟨part', key', hpart', hkey', -, hsome⟩
  · rw [hnone] at hentry
    cases hentry
  · rw [hsome] at hentry
    cases hentry
    rintro (⟨hplace, -⟩ | ⟨i, rest, hplace⟩)
    · rw [placeOf_setting hpart' hkey'] at hplace
      cases hplace
    · rw [placeOf_setting hpart' hkey'] at hplace
      cases hplace

end SearchGateway.Settings
