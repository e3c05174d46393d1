import SearchGateway.Search.Service

/-!
# Consulting the collaborators

Behind validation, a search is one consultation of the collaborators (`consult`), told in the words
of the request (`Parameters.conclude`); this holds in every monad (`search_eq_map_consult`). What
the collaborators are asked depends on the query and the engine's request alone (`consult_congr`),
while the words also have the client's raw filter.

Where collaborators may break off, a consultation of ones that do not either fails at a step
(`FailsAt`) or brings results (`consult_completes`).
-/

namespace SearchGateway

/-- A failure that does not name a step yet, as collaborators bring it forward. -/
def Failure.IsUntold (f : Failure) : Prop :=
  ∀ stage text filters, f ≠ .collaborator stage text filters

/-- A failure told with a step names one. It is that step, with the failure's message and the
filters, unless the failure named a step before. -/
theorem Failure.exists_during (f : Failure) (stage : Stage) (filters : FilterForms) :
    ∃ stage' text filters', f.during stage filters = .collaborator stage' text filters' ∧
      (f.IsUntold → stage' = stage ∧ text = f.message ∧ filters' = filters) := by
  cases f with
  | collaborator stage' text filters' =>
    exact ⟨stage', text, filters', rfl, fun h => absurd rfl (h stage' text filters')⟩
  | missingQuery | unknownDistanceMethod | invalidFilter | embedding | queryEngine
  | configuration => exact ⟨stage, _, filters, rfl, fun _ => ⟨rfl, rfl, rfl⟩⟩

section
variable {m : Type → Type} [Monad m]

/-- Asks the collaborators for given parameters: brings the results, or a failure with the step at
which it arose. -/
def consult (e : Embedder m) (q : QueryEngine m) (mode : FusionMode) (p : Parameters) :
    m (Except (Stage × Failure) (List Match)) := do
  match ← e.vector p.query with
  | .error f => return .error (.embedding, f)
  | .ok embedding => return (← q.run mode (p.engineRequest embedding)).mapError (.queryEngine, ·)

/-- The outcome of a search with given parameters, by what the collaborators bring. -/
def Parameters.conclude (p : Parameters) (mode : FusionMode) :
    Except (Stage × Failure) (List Match) → Except Failure Answer
  | .error (stage, f) => .error (f.during stage p.filters)
  | .ok results => .ok (.of results p mode)

variable {policy : Policy} {e : Embedder m} {q : QueryEngine m} {r : SearchRequest}
  {p p' : Parameters}

/-- A request that is refused is not brought before the collaborators. -/
theorem search_of_refused {f : Failure} (h : policy.accept r = .error f) :
    search policy e q r = pure (.error f) := by
  unfold search
  rw [h]

/-- Parameters with one query and one request to the engine lead to one consultation. -/
theorem consult_congr {mode : FusionMode} (hquery : p'.query = p.query)
    (hrequest : p'.engineRequest = p.engineRequest) : consult e q mode p' = consult e q mode p := by
  unfold consult
  rw [hquery, hrequest]

variable [LawfulMonad m]

/-- The search for an accepted request is a consultation. -/
theorem search_eq_map_consult (h : policy.accept r = .ok p) :
    search policy e q r = p.conclude policy.fusion <$> consult e q policy.fusion p := by
  unfold search consult
  rw [h, map_bind]
  refine bind_congr fun vector => ?_
  cases vector with
  | error f =>
    rw [map_pure]
    rfl
  | ok embedding =>
    dsimp only
    rw [map_bind]
    refine bind_congr fun found => ?_
    rw [map_pure]
    cases found with
    | error f => rfl
    | ok results => rfl

end

/-! ## Collaborators that may break off -/

section
variable {σ : Type} {e : Embedder (OptionT (StateM σ))} {q : QueryEngine (OptionT (StateM σ))}
  {mode : FusionMode} {p : Parameters} {s : σ} {stage : Stage} {f : Failure}

/-- A collaborator fails: the embedder, also with an embedding of a wrong length, or, asked with the
embedding, the query engine. -/
inductive FailsAt (e : Embedder (OptionT (StateM σ))) (q : QueryEngine (OptionT (StateM σ)))
    (mode : FusionMode) (p : Parameters) (s : σ) : Stage → Failure → Prop where
  | embedder {f : Failure} {t : σ} (hembed : (e.embed p.query).run.run s = (some (.error f), t)) :
    FailsAt e q mode p s .embedding f
  | length {v : List Float32} {t : σ} (hembed : (e.embed p.query).run.run s = (some (.ok v), t))
      (hlength : v.length ≠ e.dimensions) :
    FailsAt e q mode p s .embedding
      (.embedding s!"expected {e.dimensions} dimensions, got {v.length}")
  | engine {v : List Float32} {f : Failure} {t u : σ}
      (hembed : (e.embed p.query).run.run s = (some (.ok v), t)) (hlength : v.length = e.dimensions)
      (hrun : (q.run mode (p.engineRequest v)).run.run t = (some (.error f), u)) :
    FailsAt e q mode p s .queryEngine f

/-- A computation that brings something goes on with it, in the state that it left. -/
theorem run_bind_of_some {α β : Type} {x : OptionT (StateM σ) α} {a : α} {t : σ}
    (h : x.run.run s = (some a, t)) (g : α → OptionT (StateM σ) β) :
    (x >>= g).run.run s = (g a).run.run t := by
  rw [OptionT.run_bind, Option.elimM, StateT.run_bind, h]
  rfl

/-- The embedding of a query, by what the embedder brings. -/
theorem run_vector_of_some {text : String} {outcome : Except Failure (List Float32)} {t : σ}
    (h : (e.embed text).run.run s = (some outcome, t)) :
    (e.vector text).run.run s = (some (outcome.bind (checkDimensions e.dimensions)), t) := by
  unfold Embedder.vector
  rw [run_bind_of_some h]
  rfl

/-- An embedding that has the right length is brought. -/
theorem run_vector_of_length {text : String} {v : List Float32} {t : σ}
    (h : (e.embed text).run.run s = (some (.ok v), t)) (hlength : v.length = e.dimensions) :
    (e.vector text).run.run s = (some (.ok v), t) := by
  rw [run_vector_of_some h, Except.bind, checkDimensions, if_pos hlength]

/-- A consultation ends with an embedding that cannot be used. -/
theorem run_consult_of_error {t : σ} (h : (e.vector p.query).run.run s = (some (.error f), t)) :
    (consult e q mode p).run.run s = (some (.error (.embedding, f)), t) := by
  unfold consult
  rw [run_bind_of_some h]
  rfl

/-- A consultation goes on with an embedding that can be used. -/
theorem run_consult_of_ok {v : List Float32} {t u : σ} {found : Except Failure (List Match)}
    (h : (e.vector p.query).run.run s = (some (.ok v), t))
    (hrun : (q.run mode (p.engineRequest v)).run.run t = (some found, u)) :
    (consult e q mode p).run.run s = (some (found.mapError (.queryEngine, ·)), u) := by
  unfold consult
  rw [run_bind_of_some h]
  dsimp only
  rw [run_bind_of_some hrun]
  rfl

/-- A consultation in which a collaborator fails brings the failure and its step. -/
theorem FailsAt.consult_eq (h : FailsAt e q mode p s stage f) :
    ∃ t, (consult e q mode p).run.run s = (some (.error (stage, f)), t) := by
  cases h with
  | embedder hembed => exact ⟨_, run_consult_of_error (run_vector_of_some hembed)⟩
  | length hembed hlength =>
    have hvector := run_vector_of_some hembed
    rw [Except.bind, checkDimensions, if_neg hlength] at hvector
    exact ⟨_, run_consult_of_error hvector⟩
  | engine hembed hlength hrun =>
    exact ⟨_, run_consult_of_ok (run_vector_of_length hembed hlength) hrun⟩

/-- The search for an accepted request, by what the consultation brings. -/
theorem run_search_of_consult {policy : Policy} {r : SearchRequest}
    {brought : Except (Stage × Failure) (List Match)} {t : σ} (haccept : policy.accept r = .ok p)
    (h : (consult e q policy.fusion p).run.run s = (some brought, t)) :
    (search policy e q r).run.run s = (some (p.conclude policy.fusion brought), t) := by
  rw [search_eq_map_consult haccept, OptionT.run_map, StateT.run_map, h]
  rfl

/-- The embedder never breaks off. -/
def Embedder.Completes (e : Embedder (OptionT (StateM σ))) : Prop :=
  ∀ text s, ∃ outcome t, (e.embed text).run.run s = (some outcome, t)

/-- The query engine never breaks off. -/
structure QueryEngine.Completes (q : QueryEngine (OptionT (StateM σ))) : Prop where
  hybridSearch : ∀ r s, ∃ outcome t, (q.hybridSearch r).run.run s = (some outcome, t)
  candidates : ∀ r s, ∃ outcome t, (q.candidates r).run.run s = (some outcome, t)

/-- A query engine that never breaks off brings matches or fails, in both modes. -/
theorem QueryEngine.Completes.exists_run (h : q.Completes) (mode : FusionMode) (r : EngineRequest)
    (s : σ) : ∃ outcome t, (q.run mode r).run.run s = (some outcome, t) := by
  cases mode with
  | engine =>
    obtain ⟨outcome, t, hrun⟩ := h.hybridSearch r s
    exact ⟨_, t, run_bind_of_some hrun _⟩
  | inCore =>
    obtain ⟨outcome, t, hrun⟩ := h.candidates r s
    exact ⟨_, t, run_bind_of_some hrun _⟩

/-- Among collaborators that never break off, one fails, or the consultation brings results. -/
theorem consult_completes (he : e.Completes) (hq : q.Completes) (mode : FusionMode)
    (p : Parameters) (s : σ) :
    (∃ stage f, FailsAt e q mode p s stage f) ∨
      ∃ results t, (consult e q mode p).run.run s = (some (.ok results), t) := by
  obtain ⟨embedded, t, hembed⟩ := he p.query s
  cases embedded with
  | error f => exact .inl ⟨_, f, .embedder hembed⟩
  | ok v =>
    by_cases hlength : v.length = e.dimensions
    · obtain ⟨found, u, hrun⟩ := hq.exists_run mode (p.engineRequest v) t
      cases found with
      | error f => exact .inl ⟨_, f, .engine hembed hlength hrun⟩
      | ok results =>
        exact .inr ⟨results, u, run_consult_of_ok (run_vector_of_length hembed hlength) hrun⟩
    · exact .inl ⟨_, _, .length hembed hlength⟩

end

section
variable {m : Type → Type} [Monad m]

/-- An embedder that never breaks off, among ones that may. -/
def Embedder.lift (e : Embedder m) : Embedder (OptionT m) where
  dimensions := e.dimensions
  embed text := OptionT.lift (e.embed text)

/-- A query engine that never breaks off, among ones that may. -/
def QueryEngine.lift (q : QueryEngine m) : QueryEngine (OptionT m) where
  hybridSearch r := OptionT.lift (q.hybridSearch r)
  candidates r := OptionT.lift (q.candidates r)

end

end SearchGateway
