import SearchGateway.Proofs.Server.Responses
import Mathlib.Tactic.ByContra

/-!
# Where the credentials of a database come from

The settings of a query engine have an address and a key, and each of them, where it is empty, has
a variable to fall back on (`FallsBack`). They are meant to do so one by one (`EachFallsBack`): what
is configured is then never ignored.

In fact they fall back together. If one is empty, both are taken from the environment
(`credentialsOf_of_empty`), so a value that is configured counts only beside another one, or where
the environment happens to agree with it. `Ignores` lists the cases in which it is ignored, and
`eachFallsBack_iff` says that there are no others.
-/

namespace SearchGateway.Server

open Rpc.Credentials (urlVariable keyVariable)

/-- The value of a setting: what is configured, or else what a variable holds. -/
inductive FallsBack (env : Variables) (name configured : String) : String → Prop where
  | configured (h : configured ≠ "") : FallsBack env name configured configured
  | held {value : String} (h : configured = "") (hvalue : env.lookup name = some value) :
    FallsBack env name configured value

/-- A variable is one that an empty setting falls back on. -/
inductive StandsIn (s : QueryEngineSettings) : String → Prop where
  | url (h : s.url = "") : StandsIn s urlVariable
  | key (h : s.serviceRoleKey = "") : StandsIn s keyVariable

/-- Address and key fall back one by one: each of the credentials is what is configured, or else
what its own variable holds, and a variable is missed only if its setting is empty. -/
inductive EachFallsBack (s : QueryEngineSettings) (env : Variables) :
    Except StartupFault Rpc.Credentials → Prop where
  | found {c : Rpc.Credentials} (hurl : FallsBack env urlVariable s.url c.url)
      (hkey : FallsBack env keyVariable s.serviceRoleKey c.apiKey) : EachFallsBack s env (.ok c)
  | missing {name : String} (h : StandsIn s name) :
    EachFallsBack s env (.error (.missingVariable name))
  | other {fault : StartupFault} (h : ∀ name, fault ≠ .missingVariable name) :
    EachFallsBack s env (.error fault)

/-- A value that is configured is ignored, because the other one is not configured: an address, if
the environment has none, or a key and another address; a key, if the environment has an address
and not the same key. -/
inductive Ignores (s : QueryEngineSettings) (env : Variables) : Prop where
  | url (hurl : s.url ≠ "") (hkey : s.serviceRoleKey = "")
      (hother : env.lookup urlVariable ≠ some s.url)
      (h : env.lookup urlVariable = none ∨ env.lookup keyVariable ≠ none)
  | key (hurl : s.url = "") (hkey : s.serviceRoleKey ≠ "")
      (hother : env.lookup keyVariable ≠ some s.serviceRoleKey)
      (h : env.lookup urlVariable ≠ none)

section
variable {s : QueryEngineSettings} {env : Variables} {name configured value : String}

/-- With a variable that is set, a setting is empty or agrees with what it falls back to. -/
theorem fallsBack_iff (h : env.lookup name = some value) :
    FallsBack env name configured value ↔ configured = "" ∨ configured = value := by
  constructor
  · rintro (_ | ⟨hempty, -⟩)
    · exact .inr rfl
    · exact .inl hempty
  · intro hor
    by_cases hempty : configured = ""
    · exact .held hempty h
    · obtain rfl := hor.resolve_left hempty
      exact .configured hempty

/-- A missing address is that of an empty setting. -/
theorem standsIn_url_iff : StandsIn s urlVariable ↔ s.url = "" := by
  constructor
  · intro h
    generalize hname : urlVariable = name at h
    cases h with
    | url h => exact h
    | key => exact absurd hname (by decide)
  · exact .url

/-- A missing key is that of an empty setting. -/
theorem standsIn_key_iff : StandsIn s keyVariable ↔ s.serviceRoleKey = "" := by
  constructor
  · intro h
    generalize hname : keyVariable = name at h
    cases h with
    | url => exact absurd hname (by decide)
    | key h => exact h
  · exact .key

/-- A missing variable has to be one that an empty setting falls back on. -/
theorem eachFallsBack_missing_iff :
    EachFallsBack s env (.error (.missingVariable name)) ↔ StandsIn s name := by
  constructor
  · rintro (_ | h | h)
    · exact h
    · exact absurd rfl (h name)
  · exact .missing

/-- Credentials have to be what each setting falls back to. -/
theorem eachFallsBack_found_iff {c : Rpc.Credentials} :
    EachFallsBack s env (.ok c) ↔
      FallsBack env urlVariable s.url c.url ∧
        FallsBack env keyVariable s.serviceRoleKey c.apiKey := by
  constructor
  · rintro ⟨hurl, hkey⟩
    exact ⟨hurl, hkey⟩
  · rintro ⟨hurl, hkey⟩
    exact .found hurl hkey

/-- What the environment holds: no address, an address and no key, or both. -/
theorem ofVariables_cases (env : Variables) :
    (env.lookup urlVariable = none ∧ Rpc.Credentials.ofVariables env = .error urlVariable) ∨
      (∃ url, env.lookup urlVariable = some url ∧ env.lookup keyVariable = none ∧
        Rpc.Credentials.ofVariables env = .error keyVariable) ∨
      ∃ url key, env.lookup urlVariable = some url ∧ env.lookup keyVariable = some key ∧
        Rpc.Credentials.ofVariables env = .ok ⟨url, key⟩ := by
  unfold Rpc.Credentials.ofVariables Rpc.Credentials.required
  cases hurl : env.lookup urlVariable with
  | none => exact .inl ⟨rfl, rfl⟩
  | some url =>
    cases hkey : env.lookup keyVariable with
    | none => exact .inr (.inl ⟨url, rfl, rfl, rfl⟩)
    | some key => exact .inr (.inr ⟨url, key, rfl, rfl, rfl⟩)

/-- Credentials that are configured both are used. -/
theorem credentialsOf_of_configured (hurl : s.url ≠ "") (hkey : s.serviceRoleKey ≠ "") :
    credentialsOf s env = .ok ⟨s.url, s.serviceRoleKey⟩ := by
  unfold credentialsOf
  simp [String.isEmpty_iff, hurl, hkey]

/-- If one is empty, both are taken from the environment. -/
theorem credentialsOf_of_empty (h : s.url = "" ∨ s.serviceRoleKey = "") :
    credentialsOf s env = (Rpc.Credentials.ofVariables env).mapError .missingVariable := by
  unfold credentialsOf
  simp [String.isEmpty_iff, h]

/-- If one is empty, address and key fall back one by one unless the other one is ignored. -/
theorem eachFallsBack_ofVariables_iff (h : s.url = "" ∨ s.serviceRoleKey = "") :
    EachFallsBack s env ((Rpc.Credentials.ofVariables env).mapError .missingVariable) ↔
      ¬ Ignores s env := by
  rcases ofVariables_cases env with
    ⟨hurl, hread⟩ | ⟨url, hurl, hkey, hread⟩ | ⟨url, key, hurl, hkey, hread⟩
  · -- the address is missed, so it should not be configured
    rw [hread]
    change EachFallsBack s env (.error (.missingVariable urlVariable)) ↔ _
    rw [eachFallsBack_missing_iff, standsIn_url_iff]
    constructor
    · rintro hempty (⟨hset, -, -, -⟩ | ⟨-, -, -, hheld⟩)
      · exact hset hempty
      · exact hheld hurl
    · intro hnot
      by_contra hset
      exact hnot (.url hset (h.resolve_left hset) (by simp [hurl]) (.inl hurl))
  · -- the key is missed
    rw [hread]
    change EachFallsBack s env (.error (.missingVariable keyVariable)) ↔ _
    rw [eachFallsBack_missing_iff, standsIn_key_iff]
    constructor
    · rintro hempty (⟨-, -, -, hnone | hheld⟩ | ⟨-, hset, -, -⟩)
      · cases hurl.symm.trans hnone
      · exact hheld hkey
      · exact hset hempty
    · intro hnot
      by_contra hset
      exact hnot (.key (h.resolve_right hset) hset (by simp [hkey]) (by simp [hurl]))
  · -- both are found, so what is configured should be the same
    rw [hread]
    change EachFallsBack s env (.ok ⟨url, key⟩) ↔ _
    rw [eachFallsBack_found_iff, fallsBack_iff hurl, fallsBack_iff hkey]
    constructor
    · rintro ⟨hsame, hsame'⟩ (⟨hset, -, hother, -⟩ | ⟨-, hset, hother, -⟩)
      · rw [hsame.resolve_left hset] at hother
        exact hother hurl
      · rw [hsame'.resolve_left hset] at hother
        exact hother hkey
    · intro hnot
      constructor
      · by_contra hset
        rw [not_or] at hset
        have hother : env.lookup urlVariable ≠ some s.url := fun hsame =>
          hset.2 (Option.some.inj (hsame.symm.trans hurl))
        exact hnot (.url hset.1 (h.resolve_left hset.1) hother (.inr (by simp [hkey])))
      · by_contra hset
        rw [not_or] at hset
        have hother : env.lookup keyVariable ≠ some s.serviceRoleKey := fun hsame =>
          hset.2 (Option.some.inj (hsame.symm.trans hkey))
        exact hnot (.key (h.resolve_right hset.1) hset.1 hother (by simp [hurl]))

/-- Address and key fall back one by one unless one is configured and ignored. -/
theorem eachFallsBack_credentialsOf_iff :
    EachFallsBack s env (credentialsOf s env) ↔ ¬ Ignores s env := by
  by_cases hempty : s.url = "" ∨ s.serviceRoleKey = ""
  · rw [credentialsOf_of_empty hempty]
    exact eachFallsBack_ofVariables_iff hempty
  · rw [not_or] at hempty
    rw [credentialsOf_of_configured hempty.1 hempty.2]
    refine iff_of_true (.found (.configured hempty.1) (.configured hempty.2)) ?_
    rintro (⟨-, hkey, -, -⟩ | ⟨hurl, -, -, -⟩)
    · exact hempty.2 hkey
    · exact hempty.1 hurl

end

/-- The credentials of the database among the collaborators of a server. -/
def databaseCredentials (s : Settings) (env : Variables) : Except StartupFault Rpc.Credentials :=
  (Collaborators.ofSettings s env).map (·.engine.credentials)

section
variable {s : Settings} {env : Variables}

/-- Without a key to the embedding provider, there are no collaborators. -/
theorem databaseCredentials_of_fault {fault : StartupFault}
    (h : providerOf s.embedding env = .error fault) :
    databaseCredentials s env = .error fault := by
  unfold databaseCredentials Collaborators.ofSettings
  rw [h]
  rfl

/-- With one, the credentials are those of the settings of the query engine. -/
theorem databaseCredentials_of_provider {provider : EmbeddingProvider}
    (h : providerOf s.embedding env = .ok provider) :
    databaseCredentials s env = credentialsOf s.queryEngine env := by
  unfold databaseCredentials Collaborators.ofSettings engineOf
  rw [h]
  cases credentialsOf s.queryEngine env <;> rfl

/-- What a provider is missing is no variable of the database. -/
theorem fault_of_providerOf {fault : StartupFault}
    (h : providerOf s.embedding env = .error fault) : fault = .missingEmbeddingKey := by
  unfold providerOf at h
  split at h
  · cases h
    rfl
  · cases h

/-- Address and key of the database fall back one by one exactly if neither is ignored, or if the
key to the embedding provider, which is looked for first, is nowhere to be found. -/
theorem eachFallsBack_iff (s : Settings) (env : Variables) :
    EachFallsBack s.queryEngine env (databaseCredentials s env) ↔
      providerOf s.embedding env = .error .missingEmbeddingKey ∨ ¬ Ignores s.queryEngine env := by
  cases hprovider : providerOf s.embedding env with
  | error fault =>
    obtain rfl := fault_of_providerOf hprovider
    rw [databaseCredentials_of_fault hprovider]
    exact iff_of_true (.other nofun) (.inl rfl)
  | ok provider =>
    rw [databaseCredentials_of_provider hprovider, eachFallsBack_credentialsOf_iff]
    simp

/-- Settings with the address of a database and no key. -/
def addressAlone : Settings :=
  { smallSettings false with
    queryEngine := ⟨"https://own.example", "", "fused", "ranked", .engine, 50, 30⟩ }

/-- An environment with keys to both collaborators, and perhaps the address of a database. -/
def keysWith (address : List (String × String)) : Variables :=
  address ++ [("OPENAI_API_KEY", "embed"), ("SUPABASE_SERVICE_ROLE_KEY", "open")]

/-- With an address and no key, the key of the environment goes to another address that the
environment names. If it names none, there are no collaborators for want of an address. -/
theorem not_eachFallsBack_addressAlone :
    (databaseCredentials addressAlone (keysWith [("SUPABASE_URL", "https://other.example")]) =
        .ok ⟨"https://other.example", "open"⟩ ∧
      ¬ EachFallsBack addressAlone.queryEngine
        (keysWith [("SUPABASE_URL", "https://other.example")])
        (.ok ⟨"https://other.example", "open"⟩)) ∧
    databaseCredentials addressAlone (keysWith []) = .error (.missingVariable "SUPABASE_URL") ∧
      ¬ EachFallsBack addressAlone.queryEngine (keysWith [])
        (.error (.missingVariable "SUPABASE_URL")) := by
  refine ⟨⟨rfl, fun h => ?_⟩, rfl, fun h => ?_⟩
  · have hurl := (eachFallsBack_found_iff.1 h).1
    exact absurd ((fallsBack_iff rfl).1 hurl) (by decide)
  · exact absurd (standsIn_url_iff.1 (eachFallsBack_missing_iff.1 h)) (by decide)

end

end SearchGateway.Server
