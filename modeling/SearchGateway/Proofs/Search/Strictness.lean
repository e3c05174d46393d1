import SearchGateway.Proofs.Filter.Values
import SearchGateway.Proofs.Search.Calls
import SearchGateway.Proofs.Search.Consultation

/-!
# Checking values only refuses

A policy that checks the values of conditions refuses more requests than one that does not, and
changes nothing else. Which requests these are is said without the check: they pass in every other
respect, and the filter that the query engine would be sent has a condition whose value is not of
the shape that its operator expects (`Policy.FindsMisfit`). `accept_checkingValues` compares the
validation of both policies, `strict_values_only_refuse` their searches, over any collaborators.
-/

namespace SearchGateway

/-- The same policy, with values checked or not. -/
def Policy.checkingValues (policy : Policy) (checked : Bool) : Policy :=
  { policy with strictFilterValues := checked }

/-- A request has nothing wrong with it but the value of a condition of the filter that the query
engine would be sent. -/
structure Policy.FindsMisfit (policy : Policy) (r : SearchRequest) : Prop where
  accepted : ∃ p, (policy.checkingValues false).accept r = .ok p
  misfit : ∃ c, Filter.HasCondition r.filter c ∧ c.fits = false

variable {policy : Policy} {r : SearchRequest} {d : Filter.Defect}

/-- The check finds a misfit exactly where a condition of the raw filter does not fit. -/
theorem exists_misfit_iff {e : Filter.Expression} {v : Json}
    (h : Filter.Expression.ofJson v = .ok (some e)) :
    (∃ c, Filter.HasCondition v c ∧ c.fits = false) ↔ e.checkValues ≠ .ok () := by
  rw [ne_eq, Filter.Expression.checkValues_eq_ok_iff]
  simp only [← Filter.Expression.exists_mem_placed_iff h]
  constructor
  · rintro ⟨c, ⟨place, hplace, rfl⟩, hmisfit⟩ hall
    rw [hall place hplace] at hmisfit
    cases hmisfit
  · intro hmisfit
    by_contra hnone
    refine hmisfit fun place hplace => ?_
    by_contra hfits
    exact hnone ⟨place.2, ⟨place, hplace, rfl⟩, Bool.eq_false_iff.2 hfits⟩

/-- The misfit that the check finds is that of a condition of the raw filter. -/
theorem exists_condition_of_checkValues {e : Filter.Expression} {v : Json}
    (h : Filter.Expression.ofJson v = .ok (some e)) (hcheck : e.checkValues = .error d) :
    ∃ c, Filter.HasCondition v c ∧ c.fits = false ∧ d.cause = .invalidValue c.operator := by
  obtain ⟨place, hfirst, rfl⟩ := Filter.Expression.checkValues_eq_error_iff.1 hcheck
  have hmisfit := List.find?_some hfirst
  refine ⟨place.2, ?_, by simpa using hmisfit, rfl⟩
  exact (Filter.Expression.exists_mem_placed_iff h _).1
    ⟨place, List.mem_of_find?_eq_some hfirst, rfl⟩

/-- With the check, a filter that would pass is refused for a misfit if it has one, and any other
filter is found to be what it is without the check. -/
theorem checkFilter_checkingValues (policy : Policy) (v : Json) :
    ((policy.checkingValues false).checkFilter v = .ok () ∧
        ∃ d c, Filter.HasCondition v c ∧ c.fits = false ∧ d.cause = .invalidValue c.operator ∧
          (policy.checkingValues true).checkFilter v = .error d) ∨
      ((policy.checkingValues true).checkFilter v = (policy.checkingValues false).checkFilter v ∧
        ((policy.checkingValues false).checkFilter v = .ok () →
          ¬ ∃ c, Filter.HasCondition v c ∧ c.fits = false)) := by
  unfold Policy.checkFilter
  cases hread : Filter.Expression.ofJson v with
  | error d => exact .inr ⟨rfl, nofun⟩
  | ok e =>
    cases e with
    | none =>
      refine .inr ⟨rfl, fun _ ⟨c, hc, _⟩ => ?_⟩
      exact Filter.not_hasCondition_of_ofJson_eq_none hread c hc
    | some e =>
      cases hcheck : e.checkValues with
      | ok u => exact .inr ⟨hcheck, fun _ hmisfit => (exists_misfit_iff hread).1 hmisfit hcheck⟩
      | error d =>
        obtain ⟨c, hc, hmisfit, hcause⟩ := exists_condition_of_checkValues hread hcheck
        exact .inl ⟨rfl, d, c, hc, hmisfit, hcause, hcheck⟩

/-- Policies that find the same of a filter, with the same number of results, validate alike. -/
theorem accept_congr {policy' : Policy} (hcount : policy'.matchCount = policy.matchCount)
    (hfilter : policy'.checkFilter r.filter = policy.checkFilter r.filter) :
    policy'.accept r = policy.accept r := by
  unfold Policy.accept
  rw [hcount, hfilter]

/-- A request that is accepted, but for a filter that another policy refuses, is refused by that
policy for its filter. -/
theorem accept_eq_invalidFilter {policy' : Policy} {p : Parameters} (h : policy.accept r = .ok p)
    (hfilter : policy'.checkFilter r.filter = .error d) :
    policy'.accept r = .error (.invalidFilter d) := by
  obtain ⟨hquery, -, method, hmethod, -⟩ := accept_eq_ok_iff.1 h
  exact accept_eq_error_iff.2 (.filter hquery hmethod hfilter)

/-- A request that is refused, but not for its filter, is refused by every policy. -/
theorem accept_eq_error_of_checkFilter {f : Failure} (h : policy.accept r = .error f)
    (hfilter : policy.checkFilter r.filter = .ok ()) (policy' : Policy) :
    policy'.accept r = .error f := by
  refine accept_eq_error_iff.2 ?_
  cases accept_eq_error_iff.1 h with
  | query hquery => exact .query hquery
  | method hquery hmethod => exact .method hquery hmethod
  | filter _ _ hrefused => cases hfilter.symm.trans hrefused

/-- With the check, a request that has nothing wrong with it but a value is refused for it, and any
other one is validated as without the check. -/
theorem accept_checkingValues (policy : Policy) (r : SearchRequest) :
    (policy.FindsMisfit r ∧ ∃ d c, Filter.HasCondition r.filter c ∧ c.fits = false ∧
        d.cause = .invalidValue c.operator ∧
        (policy.checkingValues true).accept r = .error (.invalidFilter d)) ∨
      (¬ policy.FindsMisfit r ∧
        (policy.checkingValues true).accept r = (policy.checkingValues false).accept r) := by
  rcases checkFilter_checkingValues policy r.filter with
    ⟨hlenient, d, c, hc, hmisfit, hcause, hstrict⟩ | ⟨hsame, hnone⟩
  · cases haccept : (policy.checkingValues false).accept r with
    | ok p =>
      exact .inl ⟨⟨⟨p, haccept⟩, c, hc, hmisfit⟩, d, c, hc, hmisfit, hcause,
        accept_eq_invalidFilter haccept hstrict⟩
    | error f =>
      refine .inr ⟨fun h => ?_, accept_eq_error_of_checkFilter haccept hlenient _⟩
      obtain ⟨p, hp⟩ := h.accepted
      cases haccept.symm.trans hp
  · refine .inr ⟨fun h => ?_, accept_congr rfl hsame⟩
    obtain ⟨p, hp⟩ := h.accepted
    obtain ⟨-, hlenient, -⟩ := accept_eq_ok_iff.1 hp
    exact hnone hlenient h.misfit

/-- A request that is refused for its filter has a filter that does not pass. -/
theorem checkFilter_of_accept (h : policy.accept r = .error (.invalidFilter d)) :
    policy.checkFilter r.filter = .error d := by
  cases accept_eq_error_iff.1 h with
  | filter _ _ hfilter => exact hfilter

/-- Without the check, no filter is refused for a misfit. -/
theorem not_isMisfit_of_checkFilter {v : Json}
    (h : (policy.checkingValues false).checkFilter v = .error d) : ¬ d.IsMisfit := by
  rcases checkFilter_eq_error_iff.1 h with h | ⟨hstrict, -⟩
  · exact Filter.Expression.not_isMisfit_of_ofJson h
  · cases hstrict

section
variable {σ : Type} {e : Embedder (StateM σ)} {q : QueryEngine (StateM σ)} {s t : σ}

/-- A search for an accepted request does not end as a refused one does. -/
theorem isRefusal_of_search {p : Parameters} {f : Failure} (haccept : policy.accept r = .ok p)
    (h : (search policy e q r).run s = (.error f, t)) : f.isRefusal = false := by
  rw [run_search_of_accepted haccept] at h
  rcases hvector : (e.vector p.query).run s with ⟨f' | embedding, t'⟩
  · rw [hvector] at h
    cases h
    exact isRefusal_during ..
  · rw [hvector] at h
    dsimp only at h
    rcases hrun : (q.run policy.fusion (p.engineRequest embedding)).run t' with ⟨f' | results, u⟩
    · rw [hrun] at h
      cases h
      exact isRefusal_during ..
    · rw [hrun] at h
      cases h

/-- Without the check, no search ends with a misfit. -/
theorem not_isMisfit_of_search (h : (search (policy.checkingValues false) e q r).run s =
    (.error (.invalidFilter d), t)) : ¬ d.IsMisfit := by
  cases haccept : (policy.checkingValues false).accept r with
  | error f =>
    rw [run_search_of_refused haccept] at h
    cases h
    exact not_isMisfit_of_checkFilter (checkFilter_of_accept haccept)
  | ok p => cases isRefusal_of_search haccept h

end

/-- Searches with and without the check are the same program, where validation comes out alike. -/
theorem search_congr_of_accept {m : Type → Type} [Monad m] {policy' : Policy}
    (haccept : policy'.accept r = policy.accept r) (hfusion : policy'.fusion = policy.fusion)
    (e : Embedder m) (q : QueryEngine m) : search policy' e q r = search policy e q r := by
  unfold search
  rw [haccept, hfusion]

/-- A policy that checks values either refuses a request for a misfit, and no collaborator is asked,
or does with it, over any collaborators, what it does without the check. The first is the case
exactly for the requests that pass all other validation and have a condition, alone or in a group of
the list that the query engine would be sent, whose value does not fit its operator. -/
theorem strict_values_only_refuse (policy : Policy) (r : SearchRequest) :
    ((policy.FindsMisfit r ∧ ∃ d c, Filter.HasCondition r.filter c ∧ c.fits = false ∧
        d.cause = .invalidValue c.operator ∧
        ∀ {m : Type → Type} [Monad m] (e : Embedder m) (q : QueryEngine m),
          search (policy.checkingValues true) e q r = pure (.error (.invalidFilter d))) ∨
      (¬ policy.FindsMisfit r ∧
        ∀ {m : Type → Type} [Monad m] (e : Embedder m) (q : QueryEngine m),
          search (policy.checkingValues true) e q r =
            search (policy.checkingValues false) e q r)) ∧
    ∀ {σ : Type} (e : Embedder (StateM σ)) (q : QueryEngine (StateM σ)) (s : σ),
      (∃ d t, d.IsMisfit ∧ (search (policy.checkingValues true) e q r).run s =
        (.error (.invalidFilter d), t)) ↔ policy.FindsMisfit r := by
  have haccept := accept_checkingValues policy r
  constructor
  · rcases haccept with ⟨hfinds, d, c, hc, hmisfit, hcause, hrefused⟩ | ⟨hfinds, hsame⟩
    · exact .inl ⟨hfinds, d, c, hc, hmisfit, hcause, fun _ _ => search_of_refused hrefused⟩
    · exact .inr ⟨hfinds, search_congr_of_accept hsame rfl⟩
  · intro σ e q s
    rcases haccept with ⟨hfinds, d, c, -, -, hcause, hrefused⟩ | ⟨hfinds, hsame⟩
    · refine iff_of_true ⟨d, s, ⟨_, hcause⟩, ?_⟩ hfinds
      exact run_search_of_refused hrefused s
    · refine iff_of_false ?_ hfinds
      rintro ⟨d, t, hmisfit, hrun⟩
      rw [search_congr_of_accept hsame rfl] at hrun
      exact not_isMisfit_of_search hrun hmisfit

/-- A condition that compares a text with a number. -/
def likeNumber : Json :=
  .object [("field", .string "title"), ("operator", .string "like"), ("value", .int 1)]

/-- A filter with that condition in a group of its older list, and another list beside it. -/
def misfitInGroup : Json :=
  .object
    [("filters", .array []),
      ("filter", .object [("filters", .array [.object [("or", .array [likeNumber])]])])]

/-- With the check, a search with `misfitInGroup` ends before any collaborator is asked. -/
theorem strict_values_only_refuse_misfitInGroup :
    ∃ d, d.IsMisfit ∧
      (search ((⟨10, 100, false, .engine⟩ : Policy).checkingValues true)
        (⟨2, fun _ => do set 1; return .ok [0, 1]⟩ : Embedder (StateM Nat))
        ⟨fun _ => return .ok [], fun _ => return .ok ⟨[], []⟩⟩
        ⟨"pricing", misfitInGroup, none, 1, 1, 50, "cosine"⟩).run 0 =
          (.error (.invalidFilter d), 0) := by
  have hquery : (Text.trimmed "pricing").isEmpty = false := by decide
  have hfinds : (⟨10, 100, false, .engine⟩ : Policy).FindsMisfit
      ⟨"pricing", misfitInGroup, none, 1, 1, 50, "cosine"⟩ := by
    refine ⟨exists_accept hquery rfl rfl,
      ⟨"title", .like, .int 1⟩, ⟨_, rfl, _, List.mem_cons_self, ?_⟩, rfl⟩
    refine @Filter.Spelled.grouped _ _ .or _ likeNumber ?_ rfl List.mem_cons_self ?_
    · rintro ⟨field, operator, hfield, -⟩
      cases hfield
    · exact ⟨rfl, by decide, rfl, rfl⟩
  obtain ⟨hcases, -⟩ := strict_values_only_refuse ⟨10, 100, false, .engine⟩
    ⟨"pricing", misfitInGroup, none, 1, 1, 50, "cosine"⟩
  rcases hcases with ⟨-, d, c, -, -, hcause, hrefused⟩ | ⟨hnone, -⟩
  · refine ⟨d, ⟨_, hcause⟩, ?_⟩
    rw [hrefused]
    rfl
  · exact absurd hfinds hnone

end SearchGateway
