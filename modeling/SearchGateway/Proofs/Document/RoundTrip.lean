import SearchGateway.Document
import SearchGateway.Proofs.Document.Timestamp

/-!
# Documents written and read

`Document.Describes` says what the columns of a row have to hold to describe a document;
`ofColumns?_eq_some_iff` says that such a row is read as that document, and no other row is. What is
written for a document describes it, provided that its identifier is one that can be read
(`describes_toJson`). So a document that was read survives being written and read, and its columns
are those of the row it came from (`read_write_read`).
-/

namespace SearchGateway

/-! ## What columns say -/

/-- A column that may be absent or `null`, and otherwise holds a value that stands for something. -/
inductive Json.Optionally {α : Type} (stands : Json → α → Prop) :
    Option Json → Option α → Prop where
  | absent : Optionally stands none none
  | null : Optionally stands (some .null) none
  | given {v : Json} {a : α} (hgiven : v ≠ .null) (hstands : stands v a) :
    Optionally stands (some v) (some a)

/-- A value is an identifier of its kind: an integer within 64 signed bits, or a text. -/
inductive DocumentId.Denotes : Json → DocumentId → Prop where
  | int {n : Int} (hn : -2 ^ 63 ≤ n ∧ n < 2 ^ 63) : Denotes (.int n) (.int n)
  | text {s : String} : Denotes (.string s) (.text s)

/-- A value is a text that stands for a timestamp. -/
inductive Timestamp.Dates : Json → Timestamp → Prop where
  | text {s : String} {t : Timestamp} (hspells : Spells s.toList t) : Dates (.string s) t

/-- Columns describe a document: only the identifier has to be there. -/
structure Document.Describes (column : String → Option Json) (d : Document) : Prop where
  id : ∃ v, column "id" = some v ∧ DocumentId.Denotes v d.id
  content : Json.Optionally (fun v s => v = .string s) (column "content") d.content
  metadata : (column "metadata").getD .null = d.metadata
  createdAt : Json.Optionally Timestamp.Dates (column "created_at") d.createdAt

/-! ## Reading -/

/-- An optional column is read as what its value stands for. -/
theorem Json.optional?_eq_some_iff {α : Type} {decode : Json → Option α} {stands : Json → α → Prop}
    (hdecode : ∀ v a, decode v = some a ↔ stands v a) {v : Option Json} {a : Option α} :
    Json.optional? decode v = some a ↔ Json.Optionally stands v a := by
  constructor
  · intro h
    unfold Json.optional? at h
    split at h
    · cases h
      exact .absent
    · cases h
      exact .null
    · next v hgiven =>
      obtain ⟨a, ha, rfl⟩ := Option.map_eq_some_iff.1 h
      exact .given hgiven ((hdecode v a).1 ha)
  · rintro (_ | _ | ⟨hgiven, hstands⟩)
    · rfl
    · rfl
    · next v a =>
      unfold Json.optional?
      split
      · next hnone => cases hnone
      · next hnull => exact absurd (Option.some.inj hnull) hgiven
      · next hsome =>
        cases hsome
        rw [(hdecode v a).2 hstands, Option.map_some]

/-- A string is read from itself. -/
theorem Json.string?_eq_some_iff {v : Json} {s : String} :
    v.string? = some s ↔ v = .string s := by
  cases v <;> simp [Json.string?]

namespace DocumentId

/-- The identifiers that are read are those that values denote. -/
theorem ofJson?_eq_some_iff {v : Json} {id : DocumentId} : ofJson? v = some id ↔ Denotes v id := by
  constructor
  · intro h
    unfold ofJson? at h
    split at h
    · split at h
      · next n hn =>
        cases h
        simp only [Json.isSigned64, Bool.and_eq_true, decide_eq_true_eq] at hn
        exact .int hn
      · cases h
    · cases h
      exact .text
    · cases h
  · rintro (hn | _)
    · refine if_pos ?_
      simp only [Json.isSigned64, Bool.and_eq_true, decide_eq_true_eq]
      exact hn
    · rfl

/-- A value denotes an identifier only if it is the one that is written for it. -/
theorem Denotes.eq_toJson {v : Json} {id : DocumentId} (h : Denotes v id) : v = id.toJson := by
  cases h <;> rfl

end DocumentId

/-- The timestamps that are read are those that texts stand for. -/
theorem Timestamp.bind_ofText?_eq_some_iff {v : Json} {t : Timestamp} :
    v.string?.bind Timestamp.ofText? = some t ↔ Timestamp.Dates v t := by
  constructor
  · intro h
    obtain ⟨s, hs, ht⟩ := Option.bind_eq_some_iff.1 h
    rw [Json.string?_eq_some_iff.1 hs]
    exact .text (ofChars?_eq_some_iff.1 ht)
  · rintro ⟨hspells⟩
    exact ofChars?_eq_some_iff.2 hspells

namespace Document

variable {column : String → Option Json} {d : Document}

/-- Columns are read as the document that they describe. -/
theorem ofColumns?_eq_some_iff : ofColumns? column = some d ↔ Describes column d := by
  simp only [ofColumns?, Option.bind_eq_bind, Option.bind_eq_some_iff,
    DocumentId.ofJson?_eq_some_iff, Json.optional?_eq_some_iff fun _ _ => Json.string?_eq_some_iff,
    Json.optional?_eq_some_iff fun _ _ => Timestamp.bind_ofText?_eq_some_iff, Option.pure_def,
    Option.some.injEq]
  constructor
  · rintro ⟨id, hid, content, hcontent, createdAt, hcreatedAt, rfl⟩
    exact ⟨hid, hcontent, rfl, hcreatedAt⟩
  · rintro ⟨hid, hcontent, hmetadata, hcreatedAt⟩
    refine ⟨d.id, hid, d.content, hcontent, d.createdAt, hcreatedAt, ?_⟩
    rw [hmetadata]

/-- A value is read as a document if it is a row whose columns describe it. -/
theorem ofJson?_eq_some_iff {v : Json} :
    ofJson? v = some d ↔ ∃ column, v.row? columns 1 = some column ∧ Describes column d := by
  simp only [ofJson?, Option.bind_eq_some_iff, ofColumns?_eq_some_iff]

/-! ## Writing -/

/-- What is written for a document describes it, if its identifier can be read. -/
theorem describes_toJson (hid : DocumentId.Denotes d.id.toJson d.id) :
    Describes d.toJson.get? d where
  id := ⟨_, rfl, hid⟩
  content := by
    change Json.Optionally _ (some (Json.ofOption .string d.content)) d.content
    cases d.content with
    | none => exact .null
    | some s => exact .given nofun rfl
  metadata := rfl
  createdAt := by
    change Json.Optionally _ (some d.createdAtJson) d.createdAt
    unfold createdAtJson
    cases d.createdAt with
    | none => exact .null
    | some t => exact .given nofun (.text (Timestamp.spells_text t))

/-- A text column that is described is the one that is written, where an absent one counts as
`null`. -/
theorem content_eq {v : Option Json} (h : Json.Optionally (fun v s => v = .string s) v d.content) :
    v.getD .null = Json.ofOption .string d.content := by
  generalize d.content = content at h
  cases h with
  | absent => rfl
  | null => rfl
  | given hgiven hstands => exact hstands

/-- A document that was read is read again from what is written for it, which is therefore written
again. Its identifier, content and metadata are written as they were, an absent column as `null`,
and what is written for the time of creation stands for the same one as what was read. -/
theorem read_write_read {v : Json} {d : Document} (hread : ofJson? v = some d) :
    ofJson? d.toJson = some d ∧ (ofJson? d.toJson).map toJson = some d.toJson ∧
      ∃ column, v.row? columns 1 = some column ∧ Describes column d ∧
        Describes d.toJson.get? d ∧ d.toJson.get? "id" = column "id" ∧
        d.toJson.get? "content" = some ((column "content").getD .null) ∧
        d.toJson.get? "metadata" = some ((column "metadata").getD .null) := by
  obtain ⟨column, hrow, hcolumn⟩ := ofJson?_eq_some_iff.1 hread
  obtain ⟨id, hid, hdenotes⟩ := hcolumn.id
  obtain rfl := hdenotes.eq_toJson
  have hwritten : Describes d.toJson.get? d := describes_toJson hdenotes
  have hagain : ofJson? d.toJson = some d := ofJson?_eq_some_iff.2 ⟨_, rfl, hwritten⟩
  refine ⟨hagain, by rw [hagain, Option.map_some], column, hrow, hcolumn, hwritten, hid.symm,
    ?_, ?_⟩
  · rw [content_eq hcolumn.content]
    rfl
  · rw [hcolumn.metadata]
    rfl

/-- A row as an array: an identifier of digits that is a text, no content, metadata in layers, and a
leap second with a fraction, a blank and an offset of minus nothing. -/
def leapRow : Json :=
  .array [.string "7", .null, .object [("tags", .array [.int 1, .null])],
    .string "2016-12-31 23:59:60.25-00:00"]

/-- The document that the row stands for. -/
def leapDocument : Document where
  id := .text "7"
  content := none
  metadata := .object [("tags", .array [.int 1, .null])]
  createdAt := some
    { year := 2016, month := 12, day := 31, hour := 23, minute := 59, second := 59
      nanosecond := 999999999, offset := 0, year_lt := by decide, month_mem := by decide
      day_mem := by decide, time_lt := by decide, offset_lt := by decide }

theorem read_write_read_leapRow :
    ofJson? leapRow = some leapDocument ∧ ofJson? leapDocument.toJson = some leapDocument :=
  have hread : ofJson? leapRow = some leapDocument := by rfl
  ⟨hread, (read_write_read hread).1⟩

end Document

end SearchGateway
