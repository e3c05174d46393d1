import SearchGateway.Search.Service

/-!
# Runs of the search service

A search over collaborators with a state of their own, one equation a step: what `search` does with
a request that is refused (`run_search_of_refused`), with one that is accepted
(`run_search_of_accepted`), and in which states the collaborators are asked. `search_eq_ok_iff`
takes a search that succeeded apart.
-/

namespace SearchGateway

variable {σ : Type} {policy : Policy} {e : Embedder (StateM σ)} {q : QueryEngine (StateM σ)}
  {r : SearchRequest} {p : Parameters} {s s' : σ}

/-- An engine that fuses the rankings itself is asked for matches, which are then settled. -/
theorem run_engine (q : QueryEngine (StateM σ)) (r : EngineRequest) (s : σ) :
    (q.run .engine r).run s =
      (((q.hybridSearch r).run s).1.map (settle r.matchCount), ((q.hybridSearch r).run s).2) := rfl

/-- Where rankings are fused here, the engine is asked for candidates. -/
theorem run_inCore (q : QueryEngine (StateM σ)) (r : EngineRequest) (s : σ) :
    (q.run .inCore r).run s =
      (((q.candidates r).run s).1.map fun c => fuse r.fusionParameters c.keyword c.semantic,
        ((q.candidates r).run s).2) := rfl

/-- The matches of an engine that fuses itself are its rows, settled. -/
theorem run_engine_eq_ok_iff {r : EngineRequest} {t : σ} {results : List Match} :
    (q.run .engine r).run s = (.ok results, t) ↔
      ∃ rows, (q.hybridSearch r).run s = (.ok rows, t) ∧ results = settle r.matchCount rows := by
  rw [run_engine]
  rcases (q.hybridSearch r).run s with ⟨f | rows, u⟩
  · constructor
    · rintro ⟨⟩
    · rintro ⟨rows, ⟨⟩, -⟩
  · constructor
    · rintro ⟨⟩
      exact ⟨rows, rfl, rfl⟩
    · rintro ⟨_, ⟨⟩, rfl⟩
      rfl

/-- Where rankings are fused here, the matches are the fusion of the candidates. -/
theorem run_inCore_eq_ok_iff {r : EngineRequest} {t : σ} {results : List Match} :
    (q.run .inCore r).run s = (.ok results, t) ↔
      ∃ c, (q.candidates r).run s = (.ok c, t) ∧
        results = fuse r.fusionParameters c.keyword c.semantic := by
  rw [run_inCore]
  rcases (q.candidates r).run s with ⟨f | c, u⟩
  · constructor
    · rintro ⟨⟩
    · rintro ⟨c, ⟨⟩, -⟩
  · constructor
    · rintro ⟨⟩
      exact ⟨c, rfl, rfl⟩
    · rintro ⟨_, ⟨⟩, rfl⟩
      rfl

/-- A refused request ends the search before any collaborator is asked. -/
theorem run_search_of_refused {f : Failure} (h : policy.accept r = .error f) (s : σ) :
    (search policy e q r).run s = (.error f, s) := by
  unfold search
  rw [h]
  rfl

/-- An accepted request is embedded, and the engine is asked with the embedding, in the state that
the embedder left. -/
theorem run_search_of_accepted (h : policy.accept r = .ok p) (s : σ) :
    (search policy e q r).run s =
      match (e.vector p.query).run s with
      | (.error f, t) => (.error (f.during .embedding p.filters), t)
      | (.ok embedding, t) =>
        match (q.run policy.fusion (p.engineRequest embedding)).run t with
        | (.error f, u) => (.error (f.during .queryEngine p.filters), u)
        | (.ok results, u) => (.ok (.of results p policy.fusion), u) := by
  unfold search
  rw [h]
  change StateT.run ((e.vector p.query) >>= _) s = _
  rw [StateT.run_bind]
  rcases (e.vector p.query).run s with ⟨f | embedding, t⟩
  · rfl
  · change StateT.run ((q.run policy.fusion (p.engineRequest embedding)) >>= _) t = _
    rw [StateT.run_bind]
    dsimp only
    rcases (q.run policy.fusion (p.engineRequest embedding)).run t with ⟨f | results, u⟩
    · rfl
    · rfl

/-- The outcome of a search whose query cannot be embedded. -/
theorem search_of_not_embedded {f : Failure} {t : σ} (h : policy.accept r = .ok p)
    (hvector : (e.vector p.query).run s = (.error f, t)) :
    ((search policy e q r).run s).1 = .error (f.during .embedding p.filters) := by
  rw [run_search_of_accepted h, hvector]

/-- The outcome of a search whose query was embedded, by what the engine answers. -/
theorem search_of_embedded {embedding : List Float32} {t : σ} (h : policy.accept r = .ok p)
    (hvector : (e.vector p.query).run s = (.ok embedding, t)) :
    ((search policy e q r).run s).1 =
      match ((q.run policy.fusion (p.engineRequest embedding)).run t).1 with
      | .error f => .error (f.during .queryEngine p.filters)
      | .ok results => .ok (.of results p policy.fusion) := by
  rw [run_search_of_accepted h, hvector]
  dsimp only
  rcases (q.run policy.fusion (p.engineRequest embedding)).run t with ⟨f | results, u⟩
  · rfl
  · rfl

/-- A search succeeds when the request is accepted, its query is embedded and the engine answers;
the answer lists the engine's matches. -/
theorem search_eq_ok_iff {a : Answer} :
    (search policy e q r).run s = (.ok a, s') ↔
      ∃ p embedding t results, policy.accept r = .ok p ∧
        (e.vector p.query).run s = (.ok embedding, t) ∧
        (q.run policy.fusion (p.engineRequest embedding)).run t = (.ok results, s') ∧
        a = .of results p policy.fusion := by
  constructor
  · intro h
    cases haccept : policy.accept r with
    | error f =>
      rw [run_search_of_refused haccept] at h
      cases h
    | ok p =>
      rw [run_search_of_accepted haccept] at h
      rcases hvector : (e.vector p.query).run s with ⟨f | embedding, t⟩
      · rw [hvector] at h
        cases h
      · rw [hvector] at h
        dsimp only at h
        rcases hrun : (q.run policy.fusion (p.engineRequest embedding)).run t with
          ⟨f | results, u⟩
        · rw [hrun] at h
          cases h
        · rw [hrun] at h
          cases h
          exact ⟨p, embedding, t, results, rfl, hvector, hrun, rfl⟩
  · rintro ⟨p, embedding, t, results, haccept, hvector, hrun, rfl⟩
    rw [run_search_of_accepted haccept, hvector]
    dsimp only
    rw [hrun]

end SearchGateway
