import SearchGateway.Proofs.Filter.NormalForm
import SearchGateway.Search.Service
import Mathlib.Data.List.DropRight

/-!
# Validated requests

`Policy.accept` is all that stands between a request and the collaborators. This module says when it
accepts a request and with which parameters (`accept_eq_ok_iff`), for what it refuses one
(`accept_eq_error_iff`), and what this means for the filter: the expression that was read and
checked is the one that the query engine is sent (`normalForm_reads_as_raw`).
-/

namespace SearchGateway

/-- A policy passes a filter that can be read and whose values, where they matter, all fit. -/
theorem checkFilter_eq_ok_iff {policy : Policy} {v : Json} :
    policy.checkFilter v = .ok () ↔ ∃ e, Filter.Expression.ofJson v = .ok e ∧
      (policy.strictFilterValues = true → ∀ x, e = some x → x.checkValues = .ok ()) := by
  unfold Policy.checkFilter
  rw [bind_eq_ok_iff]
  refine exists_congr fun e => and_congr_right fun _ => ?_
  cases e with
  | none => simp
  | some x => cases policy.strictFilterValues <;> simp

/-- A policy refuses a filter that cannot be read, or, where values matter, one in which a value
does not fit. -/
theorem checkFilter_eq_error_iff {policy : Policy} {v : Json} {d : Filter.Defect} :
    policy.checkFilter v = .error d ↔
      Filter.Expression.ofJson v = .error d ∨ policy.strictFilterValues = true ∧
        ∃ e, Filter.Expression.ofJson v = .ok (some e) ∧ e.checkValues = .error d := by
  unfold Policy.checkFilter
  cases hread : Filter.Expression.ofJson v with
  | error d' => simp [bind, Except.bind]
  | ok e =>
    cases e with
    | none => simp [bind, Except.bind]
    | some e => cases policy.strictFilterValues <;> simp [bind, Except.bind]

/-- A request is accepted when its query is not blank, its distance method is known and its filter
passes; the parameters are those of the request, with the policy's bounds on the number of
results. -/
theorem accept_eq_ok_iff {policy : Policy} {r : SearchRequest} {p : Parameters} :
    policy.accept r = .ok p ↔
      (Text.trimmed r.query).isEmpty = false ∧ policy.checkFilter r.filter = .ok () ∧
      ∃ method, DistanceMethod.ofName? r.distanceMethod = some method ∧
        p = { query := Text.trimmed r.query
              filters := .of r.filter
              matchCount := policy.matchCount r.matchCount
              fullTextWeight := r.fullTextWeight
              semanticWeight := r.semanticWeight
              rrfK := r.rrfK
              distanceMethod := method } := by
  unfold Policy.accept
  cases hquery : (Text.trimmed r.query).isEmpty with
  | true => simp only [hquery, if_true, reduceCtorEq, false_and]
  | false =>
    cases hmethod : DistanceMethod.ofName? r.distanceMethod with
    | none =>
      simp only [hquery, Bool.false_eq_true, if_false, reduceCtorEq, false_and, exists_false,
        and_false]
    | some method =>
      cases hfilter : policy.checkFilter r.filter with
      | error d =>
        simp only [hquery, Bool.false_eq_true, if_false, reduceCtorEq, false_and, and_false]
      | ok u =>
        simp only [hquery, Bool.false_eq_true, if_false, Except.ok.injEq, true_and,
          Option.some.injEq]
        constructor
        · rintro rfl
          exact ⟨method, rfl, rfl⟩
        · rintro ⟨_, rfl, rfl⟩
          rfl

/-- A request with nothing wrong is accepted. -/
theorem exists_accept {policy : Policy} {r : SearchRequest} {method : DistanceMethod}
    (hquery : (Text.trimmed r.query).isEmpty = false)
    (hfilter : policy.checkFilter r.filter = .ok ())
    (hmethod : DistanceMethod.ofName? r.distanceMethod = some method) :
    ∃ p, policy.accept r = .ok p :=
  ⟨_, accept_eq_ok_iff.2 ⟨hquery, hfilter, method, hmethod, rfl⟩⟩

/-- A request is refused for its query, else for its distance method, else for its filter. -/
inductive Policy.RefusedFor (policy : Policy) (r : SearchRequest) : Failure → Prop where
  | query (h : (Text.trimmed r.query).isEmpty = true) : RefusedFor policy r .missingQuery
  | method (hquery : (Text.trimmed r.query).isEmpty = false)
      (h : DistanceMethod.ofName? r.distanceMethod = none) :
    RefusedFor policy r (.unknownDistanceMethod r.distanceMethod)
  | filter {method : DistanceMethod} {d : Filter.Defect}
      (hquery : (Text.trimmed r.query).isEmpty = false)
      (hmethod : DistanceMethod.ofName? r.distanceMethod = some method)
      (h : policy.checkFilter r.filter = .error d) : RefusedFor policy r (.invalidFilter d)

/-- What is told of a request that is not accepted is what it is refused for. -/
theorem accept_eq_error_iff {policy : Policy} {r : SearchRequest} {f : Failure} :
    policy.accept r = .error f ↔ policy.RefusedFor r f := by
  unfold Policy.accept
  constructor
  · intro h
    dsimp only at h
    split at h
    · next hquery =>
      cases h
      exact .query hquery
    · next hquery =>
      rw [Bool.not_eq_true] at hquery
      split at h
      · next hmethod =>
        cases h
        exact .method hquery hmethod
      · next hmethod =>
        split at h
        · next hfilter =>
          cases h
          exact .filter hquery hmethod hfilter
        · cases h
  · intro h
    cases h with
    | query h => simp only [h, if_true]
    | method hquery h => simp only [hquery, h, Bool.false_eq_true, if_false]
    | filter hquery hmethod h => simp only [hquery, hmethod, h, Bool.false_eq_true, if_false]

namespace Text

/-- What is left of a text has no blanks at its ends. -/
theorem trimmedChars_trimmedChars (cs : List Char) :
    trimmedChars (trimmedChars cs) = trimmedChars cs := by
  -- blanks are taken off the end last, which leaves the first character what it is
  have hfirst : (trimmedChars cs).dropWhile isBlank = trimmedChars cs := by
    have hstart : trimmedChars cs <+: cs.dropWhile isBlank := List.rdropWhile_prefix ..
    rw [List.dropWhile_eq_self_iff]
    intro hlength
    rw [hstart.getElem hlength]
    exact List.dropWhile_get_zero_not _ _ (hlength.trans_le hstart.length_le)
  change List.rdropWhile isBlank ((trimmedChars cs).dropWhile isBlank) = _
  rw [hfirst]
  exact List.rdropWhile_idempotent ..

/-- A trimmed text stays as it is. -/
theorem trimmed_trimmed (s : String) : trimmed (trimmed s) = trimmed s := by
  unfold trimmed
  rw [String.toList_ofList, trimmedChars_trimmedChars]

end Text

/-- The query of a search is not blank. -/
theorem isEmpty_trimmed_query {policy : Policy} {r : SearchRequest} {p : Parameters}
    (h : policy.accept r = .ok p) : (Text.trimmed p.query).isEmpty = false := by
  obtain ⟨hquery, -, method, -, hp⟩ := accept_eq_ok_iff.1 h
  have htrimmed : p.query = Text.trimmed r.query := by rw [hp]
  rw [htrimmed, Text.trimmed_trimmed]
  exact hquery

/-- A search keeps both forms of the request's filter. -/
theorem filters_of_accept {policy : Policy} {r : SearchRequest} {p : Parameters}
    (h : policy.accept r = .ok p) : p.filters = .of r.filter := by
  obtain ⟨-, -, method, -, rfl⟩ := accept_eq_ok_iff.1 h
  rfl

/-- The normal form of any value is its own normal form and has the list that the value is read
from, and no other; a value that can be read is read as the same expression in its normal form.
For a search this means that the filter which goes to the query engine is the normal form of the
client's, and that it can be read, as the expression which was validated and whose values were
checked. -/
theorem normalForm_reads_as_raw (v : Json) :
    Filter.normalForm (Filter.normalForm v) = Filter.normalForm v ∧
      (Filter.legacyMembers? (Filter.normalForm v) = none ∧
        Filter.currentMembers? (Filter.normalForm v) =
          (Filter.legacyMembers? v).or (Filter.currentMembers? v)) ∧
      (∀ e, Filter.Expression.ofJson v = .ok e →
        Filter.Expression.ofJson (Filter.normalForm v) = .ok e) ∧
      ∀ (policy : Policy) (r : SearchRequest) (p : Parameters), r.filter = v →
        policy.accept r = .ok p →
        p.filters.raw = v ∧ Filter.isReadable p.filters.normal = true ∧
        policy.checkFilter p.filters.normal = .ok () ∧
        ∃ e, Filter.Expression.ofJson v = .ok e ∧
          (policy.strictFilterValues = true → ∀ x, e = some x → x.checkValues = .ok ()) ∧
          ∀ embedding, (p.engineRequest embedding).metadataFilter = Filter.normalForm v ∧
            Filter.Expression.ofJson (p.engineRequest embedding).metadataFilter = .ok e := by
  refine ⟨Filter.normalForm_normalForm v,
    ⟨Filter.legacyMembers?_normalForm v, Filter.currentMembers?_normalForm v⟩,
    fun e => Filter.ofJson_normalForm, ?_⟩
  rintro policy r p rfl haccept
  obtain ⟨-, hcheck, method, -, rfl⟩ := accept_eq_ok_iff.1 haccept
  obtain ⟨e, hread, hvalues⟩ := checkFilter_eq_ok_iff.1 hcheck
  have hsent := Filter.ofJson_normalForm hread
  exact ⟨rfl, Filter.isReadable_eq_true_iff.2 ⟨e, hsent⟩,
    checkFilter_eq_ok_iff.2 ⟨e, hsent, hvalues⟩, e, hread, hvalues, fun _ => ⟨rfl, hsent⟩⟩

/-- A filter with a list in each notation and a key besides. -/
def mixedFilter : Json :=
  .object
    [("debug", .bool true),
      ("filter",
        .object
          [("filters",
            .array
              [.object
                [("field", .string "a"), ("operator", .string "in"),
                  ("value", .array [.int 1])]])]),
      ("filters", .array [.object [("or", .array [])]])]

/-- In a strict search with `mixedFilter`, the older list is the one that is read, checked and
sent. -/
theorem normalForm_reads_as_raw_mixed :
    ∃ p, (⟨10, 100, true, .engine⟩ : Policy).accept
        ⟨" pricing ", mixedFilter, none, 1, 1, 50, "cosine"⟩ = .ok p ∧
      Filter.isReadable p.filters.normal = true ∧
      Filter.Expression.ofJson mixedFilter =
        .ok (some ⟨[.condition ⟨"a", .oneOf, .array [.int 1]⟩]⟩) ∧
      Filter.Expression.ofJson (Filter.normalForm mixedFilter) =
        .ok (some ⟨[.condition ⟨"a", .oneOf, .array [.int 1]⟩]⟩) := by
  have hquery : (Text.trimmed " pricing ").isEmpty = false := by decide
  have hread : Filter.Expression.ofJson mixedFilter =
      .ok (some ⟨[.condition ⟨"a", .oneOf, .array [.int 1]⟩]⟩) := rfl
  obtain ⟨-, -, hnormal, hsearch⟩ := normalForm_reads_as_raw mixedFilter
  have hcheck : (⟨10, 100, true, .engine⟩ : Policy).checkFilter mixedFilter = .ok () := rfl
  obtain ⟨p, haccept⟩ : ∃ p, (⟨10, 100, true, .engine⟩ : Policy).accept
      ⟨" pricing ", mixedFilter, none, 1, 1, 50, "cosine"⟩ = .ok p :=
    exists_accept hquery hcheck rfl
  exact ⟨p, haccept, (hsearch _ _ _ rfl haccept).2.1, hread, hnormal _ hread⟩

end SearchGateway
