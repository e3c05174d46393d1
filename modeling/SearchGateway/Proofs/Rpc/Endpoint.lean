import SearchGateway.Proofs.Search.Remote
import SearchGateway.Proofs.Text.Trailing
import SearchGateway.Proofs.Wire.Segments

/-!
# Where functions are called

The name of a function cannot lead a call astray (`call_reaches_named_function`): a call by a name
that is no identifier sends nothing, and a call by an identifier sends at most one request, to the
database's address with the name at its end. How many slashes the address of the database ends with
makes no difference to that (`endpoint_append_slashes`).

The last segment is first of all one of the composed text. Where the address of the database has
neither query nor fragment, the path that is requested ends with the name as well.
-/

namespace SearchGateway.Rpc

open Wire (Client Exchange IsPathText IsWord Request Url isWordChar lastSegment)

/-- A name of ASCII letters, digits and underscores, at least one. -/
def IsIdentifier (name : String) : Prop :=
  name ≠ "" ∧ ∀ c ∈ name.toList,
    ('A' ≤ c ∧ c ≤ 'Z') ∨ ('a' ≤ c ∧ c ≤ 'z') ∨ ('0' ≤ c ∧ c ≤ '9') ∨ c = '_'

/-- So many slashes. -/
def slashes (n : Nat) : String := .ofList (.replicate n '/')

variable {function stem : String}

/-! ## Names -/

/-- The identifiers are the words. -/
theorem isIdentifier_iff_isWord : IsIdentifier function ↔ IsWord function.toList := by
  refine and_congr (not_congr String.toList_eq_nil_iff.symm) (forall₂_congr fun c _ => ?_)
  rw [Wire.isWordChar_iff]
  rfl

/-- The names that can be called are the identifiers. -/
theorem isFunctionName_iff : isFunctionName function = true ↔ IsIdentifier function := by
  rw [isIdentifier_iff_isWord, isFunctionName, Bool.and_eq_true, Bool.not_eq_true',
    String.isEmpty_eq_false_iff, List.all_eq_true]
  exact and_congr (not_congr String.toList_eq_nil_iff.symm) Iff.rfl

/-! ## Addresses -/

/-- A function is called at the address of the database, without the slashes at its end, followed by
the name. -/
theorem endpoint_append_slashes (hstem : stem.toList.getLast? ≠ some '/') (n : Nat)
    (hname : IsIdentifier function) :
    endpoint (stem ++ slashes n) function = stem ++ "/rest/v1/rpc/" ++ function := by
  have hpath : Text.withoutLeading '/' "/rest/v1/rpc" = "rest/v1/rpc" := by decide
  have hfunction : Text.withoutLeading '/' function = function := by
    have hword := isIdentifier_iff_isWord.1 hname
    have hkept : function.toList.dropWhile (· == '/') = function.toList := by
      cases hchars : function.toList with
      | nil => rfl
      | cons c cs =>
        have hc : c ≠ '/' := Wire.ne_of_isWordChar (hword.2 c (by simp [hchars])) (by decide)
        exact List.dropWhile_cons_of_neg (by simpa using hc)
    rw [Text.withoutLeading, hkept, String.ofList_toList]
  have hrpc : Text.withoutTrailing '/' (stem ++ "/" ++ "rest/v1/rpc") =
      stem ++ "/" ++ "rest/v1/rpc" := by
    have hlast : (stem ++ "/" ++ "rest/v1/rpc").toList.getLast? ≠ some '/' := by
      rw [String.toList_append, List.getLast?_append]
      exact fun h => absurd (Option.some.inj h) (by decide)
    have hkept := Text.withoutTrailing_append_replicate hlast 0
    rwa [List.replicate_zero, String.ofList_nil, String.append_empty] at hkept
  rw [endpoint, appendPath, appendPath, slashes, Text.withoutTrailing_append_replicate hstem, hpath,
    hrpc, hfunction]
  simp only [String.append_assoc]
  rfl

/-- The last segment of the address is the name. -/
theorem lastSegment_endpoint (base : String) (hname : IsIdentifier function) :
    lastSegment (endpoint base function) = function := by
  obtain ⟨stem, n, rfl, hstem⟩ := Text.exists_eq_append_replicate '/' base
  have hlast := Wire.lastSegment_append (isIdentifier_iff_isWord.1 hname) (stem ++ "/rest/v1/rpc")
  have hslash : "/rest/v1/rpc/" = "/rest/v1/rpc" ++ "/" := rfl
  rw [String.ofList_toList] at hlast
  rw [← slashes, endpoint_append_slashes hstem n hname, hslash, ← String.append_assoc, hlast]

/-- A call by an identifier, of a database whose address has neither query nor fragment, goes to a
path with the name as its last segment. -/
theorem lastSegment_target (hpath : IsPathText stem.toList) (hname : IsIdentifier function)
    {r : Request} (hurl : r.url = stem ++ "/rest/v1/rpc/" ++ function) {url : Url}
    (htarget : r.target = .ok url) : lastSegment url.path = function := by
  have hchars : r.url.toList =
      stem.toList ++ "/rest/v1".toList ++ '/' :: ("rpc".toList ++ '/' :: function.toList) := by
    rw [hurl]
    simp
  have hfront : IsPathText (stem.toList ++ "/rest/v1".toList) := by
    have hfixed : IsPathText "/rest/v1".toList := List.all_iff_forall_prop.1 (by decide)
    intro c hc
    rcases List.mem_append.1 hc with hc | hc
    · exact hpath c hc
    · exact hfixed c hc
  have hlast := Wire.lastSegment_of_target (isIdentifier_iff_isWord.1 hname) hchars hfront
    (List.all_iff_forall_prop.1 (by decide)) (List.all_iff_forall_prop.1 (by decide)) (by decide)
    htarget
  rwa [String.ofList_toList] at hlast

/-! ## Calls -/

variable {σ α : Type}

/-- What becomes of a request is never blamed on the name. -/
theorem outcomeOf_ne_invalidFunction {shape : Shape} {decode : Json → Option α} {name : String}
    (outcome : Except Wire.SendFault Wire.Reply) :
    outcomeOf shape decode outcome ≠ .error (.invalidFunction name) := by
  intro hresult
  cases outcome with
  | error f => cases hresult
  | ok reply =>
    dsimp only [outcomeOf] at hresult
    unfold resultOf at hresult
    split at hresult
    · cases hresult
    · split at hresult
      · cases hresult
      · split at hresult <;> cases hresult

/-- A call reaches the function that it names, or nothing. By a name that is no identifier, nothing
is sent, and the name is blamed. By an identifier, the one request that is sent goes to the address
of the database, without the slashes at its end, with the name as the last segment, however many
these slashes are; and other identifiers lead to other addresses.

The address is a text here, and this holds whatever stands in it. Of the path that the text is
parsed to, the name is the last segment where the address of the database has no `?` and no `#`. -/
theorem call_reaches_named_function (client : Client (StateM σ)) (c : Credentials)
    (parameters : Json) (shape : Shape) (decode : Json → Option α) (s : σ)
    (before : List Exchange) :
    ∃ stem n, c.url = stem ++ slashes n ∧ stem.toList.getLast? ≠ some '/' ∧
      (∀ function, ¬IsIdentifier function →
        (call client.recording c function parameters shape decode).run (s, before) =
          (.error (.invalidFunction function), s, before)) ∧
      (∀ function, IsIdentifier function →
        (∃ result s' made,
          (call client.recording c function parameters shape decode).run (s, before) =
            (result, s', before ++ made) ∧
          Posted (c.request function parameters) (outcomeOf shape decode) made result ∧
          ∀ name, result ≠ .error (.invalidFunction name)) ∧
        (c.request function parameters).url = stem ++ "/rest/v1/rpc/" ++ function ∧
        lastSegment (c.request function parameters).url = function ∧
        (∀ url, (c.request function parameters).target = .ok url → IsPathText stem.toList →
          lastSegment url.path = function) ∧
        ∀ m, { c with url := stem ++ slashes m }.request function parameters =
          c.request function parameters) ∧
      ∀ f g, IsIdentifier f → IsIdentifier g → f ≠ g →
        (c.request f parameters).url ≠ (c.request g parameters).url := by
  obtain ⟨stem, n, hbase, hstem⟩ : ∃ stem n, c.url = stem ++ slashes n ∧
      stem.toList.getLast? ≠ some '/' := Text.exists_eq_append_replicate '/' c.url
  have hurl : ∀ function, IsIdentifier function →
      (c.request function parameters).url = stem ++ "/rest/v1/rpc/" ++ function := by
    intro function hname
    rw [← endpoint_append_slashes hstem n hname, ← hbase]
    rfl
  refine ⟨stem, n, hbase, hstem, fun function hname => ?_, fun function hname => ⟨?_, hurl _ hname,
    lastSegment_endpoint c.url hname, fun url htarget hpath => ?_, fun m => ?_⟩,
    fun f g hf hg hne hsame => ?_⟩
  · rw [run_call, if_neg (mt isFunctionName_iff.1 hname)]
  · obtain ⟨result, s', made, hrun, hposted⟩ := exists_posted (outcomeOf shape decode) client
      (c.request function parameters) s before
    refine ⟨result, s', made, ?_, hposted, fun name => ?_⟩
    · rw [run_call, if_pos (isFunctionName_iff.2 hname), hrun]
    · cases hposted with
      | unsent => exact outcomeOf_ne_invalidFunction _
      | sent => exact outcomeOf_ne_invalidFunction _
  · exact lastSegment_target hpath hname (hurl function hname) htarget
  · have hsame : endpoint (stem ++ slashes m) function = endpoint c.url function := by
      rw [hbase, endpoint_append_slashes hstem m hname, endpoint_append_slashes hstem n hname]
    rw [Credentials.request, hsame]
    rfl
  · have hlast := congrArg lastSegment hsame
    rw [show (c.request f parameters).url = endpoint c.url f from rfl,
      show (c.request g parameters).url = endpoint c.url g from rfl, lastSegment_endpoint c.url hf,
      lastSegment_endpoint c.url hg] at hlast
    exact hne hlast

end SearchGateway.Rpc
