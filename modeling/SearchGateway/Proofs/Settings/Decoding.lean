import SearchGateway.Proofs.Except
import SearchGateway.Proofs.Settings.Layers
import SearchGateway.Settings.Section

/-!
# Settings one by one

A `Setting` is a key of a section with the decoder of its value. Settings are decoded from a tree
exactly if each of them is, on its own, from what the tree has under its key
(`ofTree_eq_ok_iff`); so nothing else in a tree matters.

All settings but the list of origins are decoded from scalars, except that a fusion mode may be
written as a table with one key. What their decoders have in common is `DecodesScalars`.
-/

namespace SearchGateway.Settings

/-! ## Single settings -/

/-- A value is decoded, or stands in for one that is not there. -/
def Reads {α : Type} (decode : Json → Except SettingsFault α) (default? : Option α) (a : α) :
    Option Json → Prop
  | some v => decode v = .ok a
  | none => default? = some a

/-- A setting: its section and key, its decoder, the value where there is none, and its place among
all settings. -/
structure Setting where
  part : String
  key : String
  Value : Type
  decode : Json → Except SettingsFault Value
  default? : Option Value
  get : Settings → Value

/-- The setting is what a value is decoded as. -/
def Setting.Holds (x : Setting) (settings : Settings) : Option Json → Prop :=
  Reads x.decode x.default? (x.get settings)

/-- The settings of the application section. -/
def applicationSettings : List Setting :=
  [⟨"application", "port", UInt16, fun v => (countBelow UInt16.size v).map .ofNat, none,
      (·.application.port)⟩,
    ⟨"application", "host", String, textOf, none, (·.application.host)⟩,
    ⟨"application", "expose_error_details", Bool, truthOf, none,
      (·.application.exposeErrorDetails)⟩,
    ⟨"application", "allowed_origins", List String, textsOf, some [],
      (·.application.allowedOrigins)⟩]

/-- The settings of the embedding section. -/
def embeddingSettings : List Setting :=
  [⟨"embedding", "api_url", String, textOf, none, (·.embedding.url)⟩,
    ⟨"embedding", "api_key", String, textOf, some "", (·.embedding.apiKey)⟩,
    ⟨"embedding", "model", String, textOf, none, (·.embedding.model)⟩,
    ⟨"embedding", "dimensions", UInt64, fun v => (countBelow UInt64.size v).map .ofNat, none,
      (·.embedding.dimensions)⟩,
    ⟨"embedding", "request_timeout_secs", UInt64,
      fun v => (countBelow UInt64.size v).map .ofNat, none, (·.embedding.timeoutSeconds)⟩]

/-- The settings of the query engine section. -/
def queryEngineSettings : List Setting :=
  [⟨"query_engine", "url", String, textOf, some "", (·.queryEngine.url)⟩,
    ⟨"query_engine", "service_role_key", String, textOf, some "", (·.queryEngine.serviceRoleKey)⟩,
    ⟨"query_engine", "hybrid_function", String, textOf, none, (·.queryEngine.hybridFunction)⟩,
    ⟨"query_engine", "candidates_function", String, textOf, none,
      (·.queryEngine.candidatesFunction)⟩,
    ⟨"query_engine", "fusion", FusionMode, fusionOf, none, (·.queryEngine.fusion)⟩,
    ⟨"query_engine", "candidate_count", UInt32, fun v => (countBelow UInt32.size v).map .ofNat,
      none, (·.queryEngine.candidateCount)⟩,
    ⟨"query_engine", "request_timeout_secs", UInt64,
      fun v => (countBelow UInt64.size v).map .ofNat, none, (·.queryEngine.timeoutSeconds)⟩]

/-- The settings of the search section. -/
def searchSettings : List Setting :=
  [⟨"search", "default_match_count", UInt32, fun v => (countBelow UInt32.size v).map .ofNat, none,
      (·.search.defaultMatchCount)⟩,
    ⟨"search", "max_match_count", UInt32, fun v => (countBelow UInt32.size v).map .ofNat, none,
      (·.search.maxMatchCount)⟩,
    ⟨"search", "strict_filter_values", Bool, switchOf, none, (·.search.strictFilterValues)⟩]

/-- All settings. -/
def allSettings : List Setting :=
  applicationSettings ++ embeddingSettings ++ queryEngineSettings ++ searchSettings

/-- A setting is a scalar: any but the list of origins. -/
def Setting.IsScalar (x : Setting) : Prop := x.key ≠ "allowed_origins"

/-- From one value only one setting is decoded. -/
theorem Setting.Holds.get_eq {x : Setting} {settings settings' : Settings} {v : Option Json}
    (h : x.Holds settings v) (h' : x.Holds settings' v) : x.get settings = x.get settings' := by
  cases v with
  | none => exact Option.some.inj (h.symm.trans h')
  | some v => exact Except.ok.inj (h.symm.trans h')

/-- Settings that are equal one by one are equal. -/
theorem eq_of_forall_get_eq {settings settings' : Settings}
    (h : ∀ x ∈ allSettings, x.get settings = x.get settings') : settings = settings' := by
  obtain ⟨⟨_, _, _, _⟩, ⟨_, _, _, _, _⟩, ⟨_, _, _, _, _, _, _⟩, ⟨_, _, _⟩⟩ := settings
  obtain ⟨⟨_, _, _, _⟩, ⟨_, _, _, _, _⟩, ⟨_, _, _, _, _, _, _⟩, ⟨_, _, _⟩⟩ := settings'
  simpa only [allSettings, applicationSettings, embeddingSettings, queryEngineSettings,
    searchSettings, List.cons_append, List.nil_append, List.forall_mem_cons, List.not_mem_nil,
    false_implies, implies_true, and_true, mk.injEq, ApplicationSettings.mk.injEq,
    EmbeddingSettings.mk.injEq, QueryEngineSettings.mk.injEq, SearchSettings.mk.injEq, and_assoc]
    using h

/-! ## Decoders of scalars -/

/-- A decoder makes nothing of lists and of empty tables, and of a table at most what it makes of
any other table with some of its keys. -/
structure DecodesScalars {α : Type} (decode : Json → Except SettingsFault α) : Prop where
  array : ∀ {items a}, decode (.array items) ≠ .ok a
  empty : ∀ {a}, decode (.object []) ≠ .ok a
  object : ∀ {fields fewer a}, fewer ≠ [] → (fewer.map Prod.fst).Nodup →
    fewer.map Prod.fst ⊆ fields.map Prod.fst → decode (.object fields) = .ok a →
    decode (.object fewer) = .ok a

variable {α β : Type} {decode : Json → Except SettingsFault α}

/-- A decoder that makes nothing of lists and tables decodes scalars. -/
theorem DecodesScalars.of_error (harray : ∀ items, ∃ f, decode (.array items) = .error f)
    (hobject : ∀ fields, ∃ f, decode (.object fields) = .error f) : DecodesScalars decode where
  array := by
    intro items a hok
    obtain ⟨f, hf⟩ := harray items
    rw [hf] at hok
    cases hok
  empty := by
    intro a hok
    obtain ⟨f, hf⟩ := hobject []
    rw [hf] at hok
    cases hok
  object := by
    intro fields fewer a _ _ _ hok
    obtain ⟨f, hf⟩ := hobject fields
    rw [hf] at hok
    cases hok

/-- A fusion mode is decoded from its name, or from the only key of a table. -/
theorem decodesScalars_fusionOf : DecodesScalars fusionOf where
  array := nofun
  empty := nofun
  object := by
    intro fields fewer a hne hnodup hsub hok
    match fields, hok with
    | [(name, value)], hok =>
      match fewer with
      | [] => exact absurd rfl hne
      | [(name', value')] =>
        have hname : name' = name := by simpa using hsub
        subst hname
        exact hok
      | (n₁, v₁) :: (n₂, v₂) :: more =>
        have hsame : n₁ = name ∧ n₂ = name := by
          constructor
          · simpa using hsub (a := n₁) (by simp)
          · simpa using hsub (a := n₂) (by simp)
        rw [hsame.1, hsame.2] at hnodup
        simp at hnodup

/-- All settings but the list of origins are decoded from scalars. -/
theorem Setting.IsScalar.decodesScalars {x : Setting} (hscalar : x.IsScalar)
    (hx : x ∈ allSettings) : DecodesScalars x.decode := by
  simp only [allSettings, applicationSettings, embeddingSettings, queryEngineSettings,
    searchSettings, List.cons_append, List.nil_append, List.mem_cons, List.not_mem_nil, or_false]
    at hx
  rcases hx with rfl | rfl | rfl | rfl | rfl | rfl | rfl | rfl | rfl | rfl | rfl | rfl | rfl | rfl |
    rfl | rfl | rfl | rfl | rfl
  all_goals first
    | exact decodesScalars_fusionOf
    | exact absurd rfl hscalar
    | exact .of_error (fun _ => ⟨_, rfl⟩) (fun _ => ⟨_, rfl⟩)

/-! ## Sections -/

variable {name key : String} {keys : List String} {fields : List (String × Json)} {a : α}
  {v : Option Json}

/-- A setting that has to be there is decoded from what is there. -/
theorem read_eq_ok_some_iff :
    (⟨name, keys, .object fields⟩ : Section).read key decode = .ok (some a) ↔
      Reads decode none a (fields.lookup key) := by
  change (match fields.lookup key with
    | some v => (decode v).map some
    | none => .ok none) = .ok (some a) ↔ _
  cases fields.lookup key with
  | none => exact ⟨nofun, nofun⟩
  | some v => simp [Reads, map_eq_ok_iff]

/-- A setting with a default is decoded from what is there, or is the default. -/
theorem exists_read_eq_ok_iff {default : α} :
    (∃ o, (⟨name, keys, .object fields⟩ : Section).read key decode = .ok o ∧
        o.getD default = a) ↔ Reads decode (some default) a (fields.lookup key) := by
  change (∃ o, (match fields.lookup key with
    | some v => (decode v).map some
    | none => .ok none) = .ok o ∧ o.getD default = a) ↔ _
  cases fields.lookup key with
  | none => simp [Reads]
  | some v =>
    constructor
    · rintro ⟨o, hread, rfl⟩
      obtain ⟨a, ha, rfl⟩ := map_eq_ok_iff.1 hread
      exact ha
    · intro ha
      exact ⟨some a, map_eq_ok_iff.2 ⟨a, ha, rfl⟩, rfl⟩

/-- What has to be there, is. -/
theorem require_eq_ok_iff {s : Section} {o : Option α} : s.require key o = .ok a ↔ o = some a := by
  cases o <;> simp [Section.require]

/-- A rewritten value is decoded as the rewritten result. -/
theorem reads_map_iff {f : α → β} {b : β} :
    Reads (fun v => (decode v).map f) none b v ↔ ∃ a, Reads decode none a v ∧ f a = b := by
  cases v with
  | none => simp [Reads]
  | some v => exact map_eq_ok_iff

variable {settings : Settings}

/-- The application section is decoded setting by setting. -/
theorem applicationOf_eq_ok_iff : applicationOf (.object fields) = .ok settings.application ↔
    ∀ x ∈ applicationSettings, x.Holds settings (fields.lookup x.key) := by
  simp only [applicationSettings, List.forall_mem_cons, List.not_mem_nil, false_implies,
    implies_true, and_true, Setting.Holds, applicationOf, Section.of, bind_eq_ok_iff,
    require_eq_ok_iff, Except.ok.injEq, pure, Except.pure, exists_eq_left', reads_map_iff]
  constructor
  · rintro ⟨_, hport, _, hhost, _, hexpose, _, horigins, port, rfl, host, rfl, expose, rfl, hsame⟩
    rw [← hsame]
    exact ⟨⟨port, read_eq_ok_some_iff.1 hport, rfl⟩, read_eq_ok_some_iff.1 hhost,
      read_eq_ok_some_iff.1 hexpose, exists_read_eq_ok_iff.1 ⟨_, horigins, rfl⟩⟩
  · rintro ⟨⟨port, hport, hport'⟩, hhost, hexpose, horigins⟩
    obtain ⟨origins, horigins, horigins'⟩ := exists_read_eq_ok_iff.2 horigins
    exact ⟨_, read_eq_ok_some_iff.2 hport, _, read_eq_ok_some_iff.2 hhost, _,
      read_eq_ok_some_iff.2 hexpose, origins, horigins, port, rfl, _, rfl, _, rfl,
      by rw [hport', horigins']⟩

/-- The embedding section is decoded setting by setting. -/
theorem embeddingOf_eq_ok_iff : embeddingOf (.object fields) = .ok settings.embedding ↔
    ∀ x ∈ embeddingSettings, x.Holds settings (fields.lookup x.key) := by
  simp only [embeddingSettings, List.forall_mem_cons, List.not_mem_nil, false_implies,
    implies_true, and_true, Setting.Holds, embeddingOf, Section.of, bind_eq_ok_iff,
    require_eq_ok_iff, Except.ok.injEq, pure, Except.pure, exists_eq_left', reads_map_iff]
  constructor
  · rintro ⟨_, hurl, _, hapiKey, _, hmodel, _, hdimensions, _, htimeout, url, rfl, model, rfl,
      dimensions, rfl, timeout, rfl, hsame⟩
    rw [← hsame]
    exact ⟨read_eq_ok_some_iff.1 hurl, exists_read_eq_ok_iff.1 ⟨_, hapiKey, rfl⟩,
      read_eq_ok_some_iff.1 hmodel, ⟨dimensions, read_eq_ok_some_iff.1 hdimensions, rfl⟩,
      ⟨timeout, read_eq_ok_some_iff.1 htimeout, rfl⟩⟩
  · rintro ⟨hurl, hapiKey, hmodel, ⟨dimensions, hdimensions, hdimensions'⟩,
      ⟨timeout, htimeout, htimeout'⟩⟩
    obtain ⟨apiKey, hapiKey, hapiKey'⟩ := exists_read_eq_ok_iff.2 hapiKey
    exact ⟨_, read_eq_ok_some_iff.2 hurl, apiKey, hapiKey, _, read_eq_ok_some_iff.2 hmodel, _,
      read_eq_ok_some_iff.2 hdimensions, _, read_eq_ok_some_iff.2 htimeout, _, rfl, _, rfl,
      dimensions, rfl, timeout, rfl, by rw [hapiKey', hdimensions', htimeout']⟩

/-- The query engine section is decoded setting by setting. -/
theorem queryEngineOf_eq_ok_iff : queryEngineOf (.object fields) = .ok settings.queryEngine ↔
    ∀ x ∈ queryEngineSettings, x.Holds settings (fields.lookup x.key) := by
  simp only [queryEngineSettings, List.forall_mem_cons, List.not_mem_nil, false_implies,
    implies_true, and_true, Setting.Holds, queryEngineOf, Section.of, bind_eq_ok_iff,
    require_eq_ok_iff, Except.ok.injEq, pure, Except.pure, exists_eq_left', reads_map_iff]
  constructor
  · rintro ⟨_, hurl, _, hkey, _, hhybrid, _, hcandidates, _, hfusion, _, hcount, _, htimeout,
      hybrid, rfl, candidates, rfl, fusion, rfl, count, rfl, timeout, rfl, hsame⟩
    rw [← hsame]
    exact ⟨exists_read_eq_ok_iff.1 ⟨_, hurl, rfl⟩, exists_read_eq_ok_iff.1 ⟨_, hkey, rfl⟩,
      read_eq_ok_some_iff.1 hhybrid, read_eq_ok_some_iff.1 hcandidates,
      read_eq_ok_some_iff.1 hfusion, ⟨count, read_eq_ok_some_iff.1 hcount, rfl⟩,
      ⟨timeout, read_eq_ok_some_iff.1 htimeout, rfl⟩⟩
  · rintro ⟨hurl, hkey, hhybrid, hcandidates, hfusion, ⟨count, hcount, hcount'⟩,
      ⟨timeout, htimeout, htimeout'⟩⟩
    obtain ⟨url, hurl, hurl'⟩ := exists_read_eq_ok_iff.2 hurl
    obtain ⟨key, hkey, hkey'⟩ := exists_read_eq_ok_iff.2 hkey
    exact ⟨url, hurl, key, hkey, _, read_eq_ok_some_iff.2 hhybrid, _,
      read_eq_ok_some_iff.2 hcandidates, _, read_eq_ok_some_iff.2 hfusion, _,
      read_eq_ok_some_iff.2 hcount, _, read_eq_ok_some_iff.2 htimeout, _, rfl, _, rfl, _, rfl,
      count, rfl, timeout, rfl, by rw [hurl', hkey', hcount', htimeout']⟩

/-- The search section is decoded setting by setting. -/
theorem searchOf_eq_ok_iff : searchOf (.object fields) = .ok settings.search ↔
    ∀ x ∈ searchSettings, x.Holds settings (fields.lookup x.key) := by
  simp only [searchSettings, List.forall_mem_cons, List.not_mem_nil, false_implies,
    implies_true, and_true, Setting.Holds, searchOf, Section.of, bind_eq_ok_iff,
    require_eq_ok_iff, Except.ok.injEq, pure, Except.pure, exists_eq_left', reads_map_iff]
  constructor
  · rintro ⟨_, hdefault, _, hmax, _, hstrict, default, rfl, max, rfl, strict, rfl, hsame⟩
    rw [← hsame]
    exact ⟨⟨default, read_eq_ok_some_iff.1 hdefault, rfl⟩, ⟨max, read_eq_ok_some_iff.1 hmax, rfl⟩,
      read_eq_ok_some_iff.1 hstrict⟩
  · rintro ⟨⟨default, hdefault, hdefault'⟩, ⟨max, hmax, hmax'⟩, hstrict⟩
    exact ⟨_, read_eq_ok_some_iff.2 hdefault, _, read_eq_ok_some_iff.2 hmax, _,
      read_eq_ok_some_iff.2 hstrict, default, rfl, max, rfl, _, rfl, by rw [hdefault', hmax']⟩

/-! ## The tree -/

/-- Settings are decoded section by section. -/
theorem ofTree_eq_ok_iff_sections : ofTree (.object fields) = .ok settings ↔
    Reads applicationOf none settings.application (fields.lookup "application") ∧
    Reads embeddingOf none settings.embedding (fields.lookup "embedding") ∧
    Reads queryEngineOf none settings.queryEngine (fields.lookup "query_engine") ∧
    Reads searchOf none settings.search (fields.lookup "search") := by
  simp only [ofTree, Section.of, bind_eq_ok_iff, require_eq_ok_iff, Except.ok.injEq, pure,
    Except.pure, exists_eq_left']
  constructor
  · rintro ⟨_, happlication, _, hembedding, _, hqueryEngine, _, hsearch, _, rfl, _, rfl, _, rfl, _,
      rfl, rfl⟩
    exact ⟨read_eq_ok_some_iff.1 happlication, read_eq_ok_some_iff.1 hembedding,
      read_eq_ok_some_iff.1 hqueryEngine, read_eq_ok_some_iff.1 hsearch⟩
  · rintro ⟨happlication, hembedding, hqueryEngine, hsearch⟩
    exact ⟨_, read_eq_ok_some_iff.2 happlication, _, read_eq_ok_some_iff.2 hembedding, _,
      read_eq_ok_some_iff.2 hqueryEngine, _, read_eq_ok_some_iff.2 hsearch, _, rfl, _, rfl, _, rfl,
      _, rfl, rfl⟩

/-- A section with a setting that has to be there is decoded if its settings are. -/
theorem reads_section_iff {sectionOf : Json → Except SettingsFault α} {part : String}
    {settingsOf : List Setting} (htable : HasTable part (.object fields))
    (hsection : ∀ {inner}, sectionOf (.object inner) = .ok a ↔
      ∀ x ∈ settingsOf, x.Holds settings (inner.lookup x.key))
    (hpart : ∀ x ∈ settingsOf, x.part = part) (hrequired : ∃ x ∈ settingsOf, x.default? = none) :
    Reads sectionOf none a (fields.lookup part) ↔
      ∀ x ∈ settingsOf, x.Holds settings (settingAt? x.part x.key (.object fields)) := by
  have hkeys : (∀ x ∈ settingsOf, x.Holds settings (settingAt? x.part x.key (.object fields))) ↔
      ∀ x ∈ settingsOf, x.Holds settings (((Json.object fields).get? part).bind (·.get? x.key)) :=
    forall₂_congr fun x hx => by rw [settingAt?, hpart x hx]
  rw [hkeys]
  change Reads sectionOf none a ((Json.object fields).get? part) ↔ _
  cases hcontent : (Json.object fields).get? part with
  | none =>
    obtain ⟨x, hx, hdefault⟩ := hrequired
    constructor
    · intro hnone
      cases hnone
    · intro hall
      have hnone : x.default? = some _ := hall x hx
      rw [hdefault] at hnone
      cases hnone
  | some content =>
    obtain ⟨inner, rfl⟩ := htable content hcontent
    exact hsection

/-- Where the sections of a tree are tables, its settings are decoded one by one, each from the
value that the tree has for it. -/
theorem ofTree_eq_ok_iff (htable : ∀ x ∈ allSettings, HasTable x.part (.object fields)) :
    ofTree (.object fields) = .ok settings ↔
      ∀ x ∈ allSettings, x.Holds settings (settingAt? x.part x.key (.object fields)) := by
  simp only [allSettings, List.forall_mem_append] at htable ⊢
  obtain ⟨⟨⟨happlication, hembedding⟩, hqueryEngine⟩, hsearch⟩ := htable
  rw [ofTree_eq_ok_iff_sections,
    reads_section_iff (happlication _ List.mem_cons_self) applicationOf_eq_ok_iff
      (by simp [applicationSettings]) ⟨_, List.mem_cons_self, rfl⟩,
    reads_section_iff (hembedding _ List.mem_cons_self) embeddingOf_eq_ok_iff
      (by simp [embeddingSettings]) ⟨_, List.mem_cons_self, rfl⟩,
    reads_section_iff (hqueryEngine _ List.mem_cons_self) queryEngineOf_eq_ok_iff
      (by simp [queryEngineSettings]) ⟨_, List.mem_cons_of_mem _ (List.mem_cons_of_mem _
        List.mem_cons_self), rfl⟩,
    reads_section_iff (hsearch _ List.mem_cons_self) searchOf_eq_ok_iff
      (by simp [searchSettings]) ⟨_, List.mem_cons_self, rfl⟩, and_assoc, and_assoc]

end SearchGateway.Settings
