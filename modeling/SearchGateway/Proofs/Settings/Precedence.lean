import SearchGateway.Proofs.Settings.PlainFiles

/-!
# Which source a setting comes from

Settings come from `base.yaml`, from the file of the environment (`Selects`) and from variables, and
each setting by itself comes from the highest of them that has it
(`load_overrides_key_by_key`). What a file has for a setting is its value there on its own
(`ownValue?`), where an empty table is nothing. What is overridden by anything but a table does not
matter: another value there makes for the same settings. A table is merged with what it overrides;
then another value there makes for no other settings, but perhaps for none.
-/

namespace SearchGateway.Settings

variable {sources : Sources} {settings : Settings} {environment part key : String}
  {base specific : List (String × Json)}

/-! ## Sources -/

/-- The environment that variables select: the one that is named, in any case of ASCII, and `local`
where none is. -/
inductive Selects (env : Variables) : String → Prop where
  | unset (hunset : env.lookup "APP_ENVIRONMENT" = none) : Selects env "local"
  | named {name environment : String} (hset : env.lookup "APP_ENVIRONMENT" = some name)
      (hknown : environment = "local" ∨ environment = "production")
      (hname : name.toList.map Char.toLower = environment.toList) : Selects env environment

/-- No source replaces a whole section by something that is no table. -/
def KeepSections (sources : Sources) : Prop :=
  ∀ ls, layers sources = .ok ls → ∀ layer ∈ ls, ∀ x ∈ allSettings, ∀ entry ∈ layer,
    ¬ReplacesSection x.part entry

/-- The environment is the one that the variables select. -/
theorem selects_of_environmentOf {env : Variables} (h : environmentOf env = .ok environment) :
    Selects env environment := by
  unfold environmentOf at h
  split at h
  · next hunset =>
    cases h
    exact .unset hunset
  · next name hset =>
    split at h
    · next found hfound =>
      cases h
      have hname := List.find?_some hfound
      refine .named hset ?_ (eq_of_beq hname).symm
      simpa [environments] using List.mem_of_find?_eq_some hfound
    · cases h

/-- Where no environment is named, it is `local`. -/
theorem Selects.eq_local {env : Variables} (h : Selects env environment)
    (hunset : env.lookup "APP_ENVIRONMENT" = none) : environment = "local" := by
  cases h with
  | unset => rfl
  | named hset =>
    rw [hunset] at hset
    cases hset

/-- The layers are those of two files and of the variables. -/
theorem layers_eq_ok_iff {ls : List (List (String × Json))} : layers sources = .ok ls ↔
    ∃ environment base specific, environmentOf sources.env = .ok environment ∧
      fileLayer sources "base.yaml" = .ok base ∧
      fileLayer sources (environment ++ ".yaml") = .ok specific ∧
      ls = [base, specific, variableLayer sources.env] := by
  simp only [layers, bind_eq_ok_iff, pure, Except.pure, Except.ok.injEq]
  constructor
  · rintro ⟨environment, henvironment, base, hbase, specific, hspecific, rfl⟩
    exact ⟨environment, base, specific, henvironment, hbase, hspecific, rfl⟩
  · rintro ⟨environment, base, specific, henvironment, hbase, hspecific, rfl⟩
    exact ⟨environment, henvironment, base, hbase, specific, hspecific, rfl⟩

/-! ## The tree of the layers -/

/-- Laying a layer over a table makes a table. -/
theorem exists_overlay_eq_object (fields : List (String × Json)) (layer : List (String × Json)) :
    ∃ fields', overlay (.object fields) layer = .object fields' := by
  induction layer generalizing fields with
  | nil => exact ⟨fields, rfl⟩
  | cons entry layer ih =>
    obtain ⟨name, rest, hplace⟩ := exists_placeOf_eq entry.1
    obtain ⟨fields', hput⟩ := exists_putAt_eq_object entry.2 name rest (.object fields)
    obtain ⟨fields'', hoverlay⟩ := ih fields'
    refine ⟨fields'', ?_⟩
    rw [← hoverlay, ← hput, ← hplace]
    rfl

/-- Layers make a table. -/
theorem exists_merged_eq_object (layers : List (List (String × Json))) :
    ∃ fields, merged layers = .object fields := by
  have hobject : ∀ (layers : List (List (String × Json))) (fields : List (String × Json)),
      ∃ fields', layers.foldl overlay (.object fields) = .object fields' := by
    intro layers
    induction layers with
    | nil => exact fun fields => ⟨fields, rfl⟩
    | cons layer layers ih =>
      intro fields
      obtain ⟨fields', hoverlay⟩ := exists_overlay_eq_object fields layer
      rw [List.foldl_cons, hoverlay]
      exact ih fields'
  exact hobject layers []

/-- A setting is what the layers say about it, one after the other. -/
theorem settingAt?_merged {layers : List (List (String × Json))}
    (h : ∀ layer ∈ layers, ∀ entry ∈ layer, ¬ReplacesSection part entry) :
    settingAt? part key (merged layers) =
      layers.foldl (fun below layer => (sayings part key layer).foldl lay below) none := by
  have hfold : ∀ tree, settingAt? part key (layers.foldl overlay tree) =
      layers.foldl (fun below layer => (sayings part key layer).foldl lay below)
        (settingAt? part key tree) := by
    induction layers with
    | nil => exact fun _ => rfl
    | cons layer layers ih =>
      intro tree
      obtain ⟨hlayer, hlayers⟩ := List.forall_mem_cons.1 h
      rw [List.foldl_cons, List.foldl_cons, ih hlayers, settingAt?_overlay part key hlayer]
  exact hfold (.object [])

/-- Sections are tables where no layer replaces them. -/
theorem hasTable_merged {layers : List (List (String × Json))}
    (h : ∀ layer ∈ layers, ∀ entry ∈ layer, ¬ReplacesSection part entry) :
    HasTable part (merged layers) := by
  have hfold : ∀ tree, HasTable part tree → HasTable part (layers.foldl overlay tree) := by
    induction layers with
    | nil => exact fun _ htable => htable
    | cons layer layers ih =>
      intro tree htable
      obtain ⟨hlayer, hlayers⟩ := List.forall_mem_cons.1 h
      exact ih hlayers _ (htable.overlay hlayer)
  exact hfold (.object []) nofun

/-- All settings and their sections have proper names. -/
theorem isName_of_mem : ∀ x ∈ allSettings, isName x.part.toList = true ∧
    isName x.key.toList = true := by
  decide

/-! ## Loading -/

/-- What variables and two files make of a setting: the text of its variable, else what the files
say about it, the one after the other. -/
def Setting.layered? (x : Setting) (env : Variables) (base specific : List (String × Json)) :
    Option Json :=
  (variableText? env x.part x.key).map .string <|>
    (sayings x.part x.key specific).foldl lay (given (sayings x.part x.key base))

/-- Sources make for settings if each of these is what the sources make of it. -/
theorem load_eq_ok_iff (henv : NameSettings sources.env) (hkeep : KeepSections sources)
    (henvironment : environmentOf sources.env = .ok environment)
    (hbase : fileLayer sources "base.yaml" = .ok base)
    (hspecific : fileLayer sources (environment ++ ".yaml") = .ok specific) :
    load sources = .ok settings ↔
      ∀ x ∈ allSettings, x.Holds settings (x.layered? sources.env base specific) := by
  have hlayers : layers sources = .ok [base, specific, variableLayer sources.env] :=
    layers_eq_ok_iff.2 ⟨environment, base, specific, henvironment, hbase, hspecific, rfl⟩
  obtain ⟨fields, hmerged⟩ := exists_merged_eq_object [base, specific, variableLayer sources.env]
  have hload : load sources = ofTree (.object fields) := by
    rw [← hmerged, load, hlayers]
    rfl
  have hparts : ∀ x ∈ allSettings, ∀ layer ∈ [base, specific, variableLayer sources.env],
      ∀ entry ∈ layer, ¬ReplacesSection x.part entry :=
    fun x hx layer hlayer entry hentry => hkeep _ hlayers layer hlayer x hx entry hentry
  rw [hload, ofTree_eq_ok_iff fun x hx => hmerged ▸ hasTable_merged (hparts x hx)]
  refine forall₂_congr fun x hx => ?_
  obtain ⟨hpart, hkey⟩ := isName_of_mem x hx
  rw [← hmerged, settingAt?_merged (hparts x hx), List.foldl_cons, List.foldl_cons, List.foldl_cons,
    List.foldl_nil, henv.foldl_sayings hpart hkey]
  rfl

/-- Plain files replace no section. -/
theorem keepSections_of_isPlain (henv : NameSettings sources.env)
    (henvironment : environmentOf sources.env = .ok environment)
    (hbase : fileLayer sources "base.yaml" = .ok base)
    (hspecific : fileLayer sources (environment ++ ".yaml") = .ok specific)
    (hplain : IsPlain base) (hplain' : IsPlain specific) : KeepSections sources := by
  intro ls hls layer hlayer x hx entry hentry
  rw [layers_eq_ok_iff.2 ⟨environment, base, specific, henvironment, hbase, hspecific, rfl⟩] at hls
  cases hls
  simp only [List.mem_cons, List.not_mem_nil, or_false] at hlayer
  rcases hlayer with rfl | rfl | rfl
  · exact hplain.not_replacesSection hentry x.part
  · exact hplain'.not_replacesSection hentry x.part
  · exact henv.not_replacesSection hentry x.part

/-- Plain files make for settings if each of these is decoded from its variable, else from what is
written for it in the two files, the one laid over the other. -/
theorem load_eq_ok_iff_of_isPlain (henv : NameSettings sources.env)
    (henvironment : environmentOf sources.env = .ok environment)
    (hbase : fileLayer sources "base.yaml" = .ok base)
    (hspecific : fileLayer sources (environment ++ ".yaml") = .ok specific)
    (hplain : IsPlain base) (hplain' : IsPlain specific) :
    load sources = .ok settings ↔ ∀ x ∈ allSettings, x.Holds settings
      ((variableText? sources.env x.part x.key).map .string <|>
        layWritten x.part x.key specific (layWritten x.part x.key base none)) := by
  have hkeep := keepSections_of_isPlain henv henvironment hbase hspecific hplain hplain'
  rw [load_eq_ok_iff henv hkeep henvironment hbase hspecific]
  refine forall₂_congr fun x hx => ?_
  rw [Setting.layered?, given, hplain.foldl_sayings, hplain'.foldl_sayings]

/-! ## Overriding -/

/-- What layers make of a scalar, it also is by the highest layer that has a value for it. -/
theorem Setting.Holds.of_highest {x : Setting} {env : Variables} (hx : x ∈ allSettings)
    (hscalar : x.IsScalar) (h : x.Holds settings (x.layered? env base specific)) :
    x.Holds settings ((variableText? env x.part x.key).map .string <|>
      (given (sayings x.part x.key specific)).filter counts <|>
      (given (sayings x.part x.key base)).filter counts) := by
  rw [Setting.layered?] at h
  cases htext : variableText? env x.part x.key with
  | some text =>
    rw [htext] at h
    exact h
  | none =>
    rw [htext] at h
    exact (over_given _ _).holds (hscalar.decodesScalars hx) h

/-- Two pairs of files say the same of each setting but where it is overridden: where there is a
variable both may differ, and where the higher file overrides, the lower one may. -/
def AgreeBut (env : Variables) (overridden : Setting → Prop)
    (base specific base' specific' : List (String × Json)) : Prop :=
  ∀ x ∈ allSettings, (variableText? env x.part x.key).isSome ∨
    sayings x.part x.key specific' = sayings x.part x.key specific ∧
      (sayings x.part x.key base' = sayings x.part x.key base ∨ overridden x)

section
variable {env : Variables} {base' specific' : List (String × Json)} {overridden : Setting → Prop}

/-- Where files agree but where it is overridden, layers make the same of a setting, or the files do
differ, but not the higher ones. -/
theorem AgreeBut.layered?_eq (h : AgreeBut env overridden base specific base' specific')
    {x : Setting} (hx : x ∈ allSettings) :
    x.layered? env base' specific' = x.layered? env base specific ∨
      variableText? env x.part x.key = none ∧
        sayings x.part x.key specific' = sayings x.part x.key specific ∧ overridden x := by
  rw [Setting.layered?, Setting.layered?]
  cases htext : variableText? env x.part x.key with
  | some text => exact .inl rfl
  | none =>
    rcases h x hx with hsome | ⟨hspecific, hbase | hoverridden⟩
    · rw [htext] at hsome
      cases hsome
    · rw [hspecific, hbase]
      exact .inl rfl
    · exact .inr ⟨rfl, hspecific, hoverridden⟩

/-- What is overridden by something that is no table makes nothing of a setting. -/
theorem AgreeBut.layered?_eq_of_overrides
    (h : AgreeBut env (fun x => Overrides (sayings x.part x.key specific)) base specific base'
      specific') {x : Setting} (hx : x ∈ allSettings) :
    x.layered? env base' specific' = x.layered? env base specific := by
  rcases h.layered?_eq hx with hsame | ⟨-, hspecific, hoverrides⟩
  · exact hsame
  · rw [Setting.layered?, Setting.layered?, hspecific,
      hoverrides.foldl_eq _ (given (sayings x.part x.key base))]

/-- A scalar that the higher file has a value for does not show what is below. -/
theorem Setting.Holds.get_eq_of_given {x : Setting} {settings' : Settings} {value : Json}
    (hx : x ∈ allSettings) (hscalar : x.IsScalar) (htext : variableText? env x.part x.key = none)
    (hsame : sayings x.part x.key specific' = sayings x.part x.key specific)
    (hgiven : (given (sayings x.part x.key specific)).filter counts = some value)
    (h : x.Holds settings (x.layered? env base specific))
    (h' : x.Holds settings' (x.layered? env base' specific')) :
    x.get settings' = x.get settings := by
  have hhighest := h.of_highest hx hscalar
  have hhighest' := h'.of_highest hx hscalar
  rw [htext, hgiven] at hhighest
  rw [htext, hsame, hgiven] at hhighest'
  exact hhighest'.get_eq hhighest

end

/-- Each setting that is a scalar comes from its variable, else from the file of the environment if
that file has a value for it on its own, else from `base.yaml`; an empty table is no value. And what
is overridden by something that is no table does not matter, so that files that only differ there
make for the same settings; where it is overridden by a table, they make for no others. -/
theorem load_overrides_key_by_key (hload : load sources = .ok settings)
    (henv : NameSettings sources.env) (hkeep : KeepSections sources) :
    ∃ environment base specific, Selects sources.env environment ∧
      fileLayer sources "base.yaml" = .ok base ∧
      fileLayer sources (environment ++ ".yaml") = .ok specific ∧
      (∀ x ∈ allSettings, x.IsScalar → x.Holds settings
        ((variableText? sources.env x.part x.key).map .string <|>
          (ownValue? x.part x.key specific).filter counts <|>
          (ownValue? x.part x.key base).filter counts)) ∧
      ∀ changed base' specific', changed.env = sources.env → KeepSections changed →
        fileLayer changed "base.yaml" = .ok base' →
        fileLayer changed (environment ++ ".yaml") = .ok specific' →
        (AgreeBut sources.env (fun x => Overrides (sayings x.part x.key specific))
            base specific base' specific' → load changed = .ok settings) ∧
        (AgreeBut sources.env (fun x => Overrides (sayings x.part x.key specific) ∨
              x.IsScalar ∧ ((ownValue? x.part x.key specific).filter counts).isSome)
            base specific base' specific' →
          ∀ settings', load changed = .ok settings' → settings' = settings) := by
  obtain ⟨ls, hlayers, -⟩ := bind_eq_ok_iff.1 hload
  obtain ⟨environment, base, specific, henvironment, hbase, hspecific, rfl⟩ :=
    layers_eq_ok_iff.1 hlayers
  have hholds := (load_eq_ok_iff henv hkeep henvironment hbase hspecific).1 hload
  have hown : ∀ layer ∈ [base, specific], ∀ x ∈ allSettings, ownValue? x.part x.key layer =
      given (sayings x.part x.key layer) :=
    fun layer hlayer x hx => ownValue?_eq_given
      (hkeep _ hlayers layer (List.mem_append_left [variableLayer sources.env] hlayer) x hx)
  obtain ⟨hownBase, hownSpecific⟩ := List.forall_mem_cons.1 hown
  replace hownSpecific := List.forall_mem_singleton.1 hownSpecific
  refine ⟨environment, base, specific, selects_of_environmentOf henvironment, hbase, hspecific,
    fun x hx hscalar => ?_, fun changed base' specific' hsame hkeep' hbase' hspecific' => ?_⟩
  · rw [hownBase x hx, hownSpecific x hx]
    exact (hholds x hx).of_highest hx hscalar
  rw [← hsame] at henv henvironment hholds ⊢
  have hload' : ∀ {settings'}, load changed = .ok settings' ↔
      ∀ x ∈ allSettings, x.Holds settings' (x.layered? changed.env base' specific') :=
    load_eq_ok_iff henv hkeep' henvironment hbase' hspecific'
  constructor
  · intro hagree
    refine hload'.2 fun x hx => ?_
    rw [hagree.layered?_eq_of_overrides hx]
    exact hholds x hx
  · intro hagree settings' hchanged
    refine eq_of_forall_get_eq fun x hx => ?_
    have hold := hholds x hx
    have hnew := hload'.1 hchanged x hx
    rcases hagree.layered?_eq hx with heq | ⟨htext, hsaid, hoverrides | ⟨hscalar, hgiven⟩⟩
    · rw [heq] at hnew
      exact hnew.get_eq hold
    · rw [Setting.layered?, hsaid,
        hoverrides.foldl_eq _ (given (sayings x.part x.key base))] at hnew
      exact hnew.get_eq hold
    · rw [hownSpecific x hx] at hgiven
      obtain ⟨value, hvalue⟩ := Option.isSome_iff_exists.1 hgiven
      exact hold.get_eq_of_given hx hscalar htext hsaid hvalue hnew

/-! ## Sources of one kind and another -/

/-- A base file with given values for the host, the port and the fusion mode. -/
def baseFile (host port fusion : Json) : List (String × Json) :=
  [("application", .object [("port", port), ("host", host),
      ("expose_error_details", .bool false), ("allowed_origins", .array [])]),
    ("embedding", .object [("api_url", .string "https://api.openai.com/v1"),
      ("api_key", .string ""), ("model", .string "text-embedding-3-small"),
      ("dimensions", .int 1536), ("request_timeout_secs", .int 10)]),
    ("query_engine", .object [("url", .string ""), ("service_role_key", .string ""),
      ("hybrid_function", .string "search_documents_hybrid"),
      ("candidates_function", .string "search_documents_candidates"),
      ("fusion", fusion), ("candidate_count", .int 50), ("request_timeout_secs", .int 15)]),
    ("search", .object [("default_match_count", .int 10), ("max_match_count", .int 100),
      ("strict_filter_values", .bool false)])]

/-- The settings of a base file, with these three values. -/
def baseSettings (host : String) (port : UInt16) (fusion : FusionMode) : Settings where
  application := ⟨port, host, false, []⟩
  embedding := ⟨"https://api.openai.com/v1", "", "text-embedding-3-small", 1536, 10⟩
  queryEngine := ⟨"", "", "search_documents_hybrid", "search_documents_candidates", fusion, 50, 15⟩
  search := ⟨10, 100, false⟩

/-- A base file is plain, whatever the three values. -/
theorem isPlain_baseFile (host port fusion : Json) : IsPlain (baseFile host port fusion) where
  nodup := by
    change (["application", "embedding", "query_engine", "search"] : List String).Nodup
    decide
  named := by
    simp only [baseFile, List.forall_mem_cons]
    decide
  table := by
    intro entry hentry
    simp only [baseFile, List.mem_cons, List.not_mem_nil, or_false] at hentry
    rcases hentry with rfl | rfl | rfl | rfl
    all_goals refine ⟨_, rfl, ?_, ?_⟩
    all_goals simp only [List.map_cons, List.map_nil, List.forall_mem_cons]
    all_goals decide

/-- A file with another host. -/
def hostFile : List (String × Json) :=
  [("application", .object [("host", .string "0.0.0.0")])]

theorem isPlain_hostFile : IsPlain hostFile where
  nodup := by decide
  named := by decide
  table := List.forall_mem_singleton.2 ⟨_, rfl, by decide, by decide⟩

/-- Sources with a given host and port in `base.yaml`, another host in the file of the environment
and another port in a variable. -/
def overridden (host port : Json) : Sources where
  files := [("base.yaml", .object (baseFile host port (.string "engine"))),
    ("local.yaml", .object hostFile)]
  env := [("HYBRID_SEARCH_APPLICATION__PORT", "9000")]

theorem lowerCase_port : Text.lowerCase "HYBRID_SEARCH_APPLICATION__PORT" =
    variableName "application" "port" := by
  rw [Text.lowerCase_of_ascii (List.all_iff_forall_prop.1 (by decide))]
  decide

theorem nameSettings_overridden (host port : Json) : NameSettings (overridden host port).env where
  named := List.forall_mem_singleton.2 fun _ =>
    ⟨"application", "port", by decide, by decide, lowerCase_port⟩
  distinct := by
    intro v hv w hw _ _
    rw [List.mem_singleton.1 hv, List.mem_singleton.1 hw]

/-- The port is the only setting with a variable. -/
theorem variableText?_overridden (host port : Json) (hpart : isName part.toList = true)
    (hkey : isName key.toList = true) : variableText? (overridden host port).env part key =
      if part = "application" ∧ key = "port" then some "9000" else none := by
  by_cases h : part = "application" ∧ key = "port"
  · obtain ⟨rfl, rfl⟩ := h
    rw [if_pos ⟨rfl, rfl⟩, (nameSettings_overridden host port).variableText?_eq_some
      List.mem_cons_self lowerCase_port]
  · rw [if_neg h]
    refine variableText?_eq_none (List.forall_mem_singleton.2 fun hname => h ?_)
    rw [lowerCase_port] at hname
    exact variableName_inj hpart hkey (by decide) (by decide) hname.symm

/-- The host is the one of the file of the environment, the port the one of the variable. -/
theorem load_overridden : load (overridden (.string "127.0.0.1") (.int 8080)) =
    .ok (baseSettings "0.0.0.0" 9000 .engine) := by
  refine (load_eq_ok_iff_of_isPlain (nameSettings_overridden ..) rfl rfl rfl (isPlain_baseFile ..)
    isPlain_hostFile).2 fun x hx => ?_
  obtain ⟨hpart, hkey⟩ := isName_of_mem x hx
  rw [variableText?_overridden _ _ hpart hkey]
  clear hpart hkey
  revert x
  simp only [allSettings, applicationSettings, embeddingSettings, queryEngineSettings,
    searchSettings, List.cons_append, List.nil_append, List.forall_mem_cons, List.not_mem_nil,
    false_implies, implies_true, and_true, Setting.Holds, UInt16.size, UInt32.size, UInt64.size]
  refine ⟨?_, ?_, ?_, ?_, ?_, ?_, ?_, ?_, ?_, ?_, ?_, ?_, ?_, ?_, ?_, ?_, ?_, ?_, ?_⟩
  all_goals exact rfl

/-- Files that differ in the host and the port of `base.yaml` differ where it is overridden. -/
theorem agreeBut_overridden : AgreeBut (overridden (.string "127.0.0.1") (.int 8080)).env
    (fun x => Overrides (sayings x.part x.key hostFile))
    (baseFile (.string "127.0.0.1") (.int 8080) (.string "engine")) hostFile
    (baseFile (.array []) (.string "eighty") (.string "engine")) hostFile := by
  have hhost : Overrides (sayings "application" "host" hostFile) := by
    refine ⟨.string "0.0.0.0", nofun, ?_⟩
    rw [isPlain_hostFile.sayings_eq]
    exact List.mem_cons_self
  intro x hx
  obtain ⟨hpart, hkey⟩ := isName_of_mem x hx
  rw [variableText?_overridden _ _ hpart hkey, (isPlain_baseFile ..).sayings_eq,
    (isPlain_baseFile ..).sayings_eq, isPlain_hostFile.sayings_eq]
  clear hpart hkey
  revert x
  simp only [allSettings, applicationSettings, embeddingSettings, queryEngineSettings,
    searchSettings, List.cons_append, List.nil_append, List.forall_mem_cons, List.not_mem_nil,
    false_implies, implies_true, and_true, true_and]
  refine ⟨.inl rfl, .inr (.inr hhost), ?_⟩
  refine ⟨?_, ?_, ?_, ?_, ?_, ?_, ?_, ?_, ?_, ?_, ?_, ?_, ?_, ?_, ?_, ?_, ?_⟩
  all_goals exact .inr (.inl rfl)

/-- What `base.yaml` has for the host and the port does not matter, even if neither is decoded. -/
theorem load_overrides_key_by_key_hostAndPort :
    NameSettings (overridden (.string "127.0.0.1") (.int 8080)).env ∧
      KeepSections (overridden (.string "127.0.0.1") (.int 8080)) ∧
      load (overridden (.string "127.0.0.1") (.int 8080)) =
        .ok (baseSettings "0.0.0.0" 9000 .engine) ∧
      load (overridden (.array []) (.string "eighty")) =
        .ok (baseSettings "0.0.0.0" 9000 .engine) := by
  have hkeep : KeepSections (overridden (.string "127.0.0.1") (.int 8080)) :=
    keepSections_of_isPlain (nameSettings_overridden ..) rfl rfl rfl (isPlain_baseFile ..)
      isPlain_hostFile
  have hkeep' : KeepSections (overridden (.array []) (.string "eighty")) :=
    keepSections_of_isPlain (nameSettings_overridden ..) rfl rfl rfl (isPlain_baseFile ..)
      isPlain_hostFile
  obtain ⟨environment, base, specific, henvironment, hbase, hspecific, -, hchanged⟩ :=
    load_overrides_key_by_key load_overridden (nameSettings_overridden ..) hkeep
  obtain rfl : environment = "local" := henvironment.eq_local rfl
  obtain rfl : base = baseFile (.string "127.0.0.1") (.int 8080) (.string "engine") :=
    Except.ok.inj hbase.symm
  obtain rfl : specific = hostFile := Except.ok.inj hspecific.symm
  exact ⟨nameSettings_overridden .., hkeep, load_overridden,
    (hchanged (overridden (.array []) (.string "eighty")) _ _ rfl hkeep' rfl rfl).1
      agreeBut_overridden⟩

/-! ## Tables over values -/

/-- A file with an empty table for the port, and a fusion mode written as a table. -/
def tableFile : List (String × Json) :=
  [("application", .object [("port", .object [])]),
    ("query_engine", .object [("fusion", .object [("in_core", .null)])])]

theorem isPlain_tableFile : IsPlain tableFile where
  nodup := by decide
  named := by decide
  table := List.forall_mem_cons.2 ⟨⟨_, rfl, by decide, by decide⟩,
    List.forall_mem_singleton.2 ⟨_, rfl, by decide, by decide⟩⟩

/-- Sources with a given fusion mode in `base.yaml` and tables in the file of the environment. -/
def tabled (fusion : Json) : Sources where
  files := [("base.yaml", .object (baseFile (.string "127.0.0.1") (.int 8080) fusion)),
    ("local.yaml", .object tableFile)]
  env := []

theorem nameSettings_nil : NameSettings [] where
  named := nofun
  distinct := nofun

/-- Laying a table with one key adds the key to what is below. -/
theorem lay_table (hkey : isName key.toList = true) (below : Option Json) :
    lay below ([], .object [(key, .null)]) =
      some (.object (setField (below.getD (.object [])).fields key .null)) := by
  rw [lay, putFields, lowerCase_of_isName hkey]
  rfl

/-- The fusion mode of the file is added to what is below. -/
theorem layWritten_tableFile (below : Option Json) :
    layWritten "query_engine" "fusion" tableFile below =
      some (.object (setField (below.getD (.object [])).fields "in_core" .null)) :=
  lay_table (by decide) below

/-- Over a name, the table for the fusion mode stands, and the port stays as it is. -/
theorem load_tabled_name : load (tabled (.string "engine")) =
    .ok (baseSettings "127.0.0.1" 8080 .inCore) := by
  rw [load_eq_ok_iff_of_isPlain nameSettings_nil rfl rfl rfl (isPlain_baseFile ..)
    isPlain_tableFile]
  simp only [allSettings, applicationSettings, embeddingSettings, queryEngineSettings,
    searchSettings, List.cons_append, List.nil_append, List.forall_mem_cons, List.not_mem_nil,
    false_implies, implies_true, and_true, Setting.Holds, UInt16.size, UInt32.size, UInt64.size,
    layWritten_tableFile]
  refine ⟨?_, ?_, ?_, ?_, ?_, ?_, ?_, ?_, ?_, ?_, ?_, ?_, ?_, ?_, ?_, ?_, ?_, ?_, ?_⟩
  all_goals exact rfl

/-- Over another table, the one for the fusion mode makes a table of two keys. -/
theorem load_tabled_table : load (tabled (.object [("engine", .null)])) ≠ .ok settings := by
  intro hload
  have hbase : fileLayer (tabled (.object [("engine", .null)])) "base.yaml" =
      .ok (baseFile (.string "127.0.0.1") (.int 8080) (.object [("engine", .null)])) := rfl
  have hbelow : layWritten "query_engine" "fusion"
      (baseFile (.string "127.0.0.1") (.int 8080) (.object [("engine", .null)])) none =
        some (.object [("engine", .null)]) := lay_table (by decide) none
  rw [load_eq_ok_iff_of_isPlain nameSettings_nil rfl hbase rfl (isPlain_baseFile ..)
    isPlain_tableFile] at hload
  have hfusion := hload ⟨"query_engine", "fusion", FusionMode, fusionOf, none,
    (·.queryEngine.fusion)⟩ (by simp [allSettings, queryEngineSettings])
  rw [layWritten_tableFile, hbelow] at hfusion
  cases hfusion

/-- With tables it is not so: the file of the environment has one for the port, which is none to
decode a port from, and the port is the one of `base.yaml`; and the settings change with the fusion
mode of `base.yaml`, although the file of the environment has one. -/
theorem not_key_by_key_tables :
    (KeepSections (tabled (.string "engine")) ∧
      load (tabled (.string "engine")) = .ok (baseSettings "127.0.0.1" 8080 .inCore) ∧
      ¬∃ environment base specific, Selects (tabled (.string "engine")).env environment ∧
        fileLayer (tabled (.string "engine")) "base.yaml" = .ok base ∧
        fileLayer (tabled (.string "engine")) (environment ++ ".yaml") = .ok specific ∧
        ∀ x ∈ allSettings, x.IsScalar → x.Holds (baseSettings "127.0.0.1" 8080 .inCore)
          ((variableText? (tabled (.string "engine")).env x.part x.key).map .string <|>
            ownValue? x.part x.key specific <|> ownValue? x.part x.key base)) ∧
      KeepSections (tabled (.object [("engine", .null)])) ∧
      ∀ settings, load (tabled (.object [("engine", .null)])) ≠ .ok settings := by
  have hkeep : KeepSections (tabled (.string "engine")) :=
    keepSections_of_isPlain nameSettings_nil rfl rfl rfl (isPlain_baseFile ..) isPlain_tableFile
  have hkeep' : KeepSections (tabled (.object [("engine", .null)])) :=
    keepSections_of_isPlain nameSettings_nil rfl rfl rfl (isPlain_baseFile ..) isPlain_tableFile
  refine ⟨⟨hkeep, load_tabled_name, ?_⟩, hkeep', fun _ => load_tabled_table⟩
  rintro ⟨environment, base, specific, henvironment, -, hspecific, hholds⟩
  obtain rfl : environment = "local" := henvironment.eq_local rfl
  obtain rfl : specific = tableFile := Except.ok.inj hspecific.symm
  have hport := hholds _ List.mem_cons_self (show "port" ≠ "allowed_origins" by decide)
  rw [ownValue?_eq_given fun entry hentry => isPlain_tableFile.not_replacesSection hentry _, given,
    isPlain_tableFile.foldl_sayings] at hport
  cases hport

end SearchGateway.Settings
