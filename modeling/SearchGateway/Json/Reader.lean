import SearchGateway.Json.Token

/-!
# Reading a JSON text for a shape

A `Shape` says which parts of a text are looked at. A record, written as an object or as the array
of its fields in order, is read for the fields it knows; the value of any other key is only stepped
over (`skip`), so neither its depth nor its numbers or code points matter. Reading takes the text in
order and stops at the first fault, whether of syntax or of type. The result is a `Json` that holds
the known parts alone.

Every call of a reader is charged against a bound computed from the length of the input, which the
wrappers (`read`, `readAny?`) supply; a call consumes input before it charges twice.
-/

namespace SearchGateway

/-- What a text is read for. -/
inductive Shape where
  /-- Any value. -/
  | any
  /-- A string. -/
  | text
  /-- An integer literal within 32 unsigned bits. -/
  | word32
  /-- A number. -/
  | number
  /-- The name of a case without contents. -/
  | caseName
  /-- `null` or the inner shape. -/
  | optional (inner : Shape)
  /-- An array of one shape. -/
  | list (item : Shape)
  /-- Known fields by key, or, as an array, in order; an array has at least `atLeast` of them. -/
  | record (label : String) (fields : List (String × Shape)) (atLeast : Nat)

namespace Json

/-! ## Stepping over a value -/

/-- What is to be stepped over next. -/
inductive Skipping where
  | value
  | key
  | afterValue

/-- The fault where a container ends too early. -/
def eofIn (isObject : Bool) : Fault := ⟨if isObject then .eofObject else .eofList, []⟩

/-- Steps over a scalar that starts with the byte `b`; none where `b` starts no scalar. -/
def skipScalar? (b : UInt8) (tail : Bytes) : Option (Except Fault Bytes) :=
  if b = 0x6E then some (expectWord [0x75, 0x6C, 0x6C] tail)
  else if b = 0x74 then some (expectWord [0x72, 0x75, 0x65] tail)
  else if b = 0x66 then some (expectWord [0x61, 0x6C, 0x73, 0x65] tail)
  else if b = 0x2D then some (skipNumber tail)
  else if isDigitByte b then some (skipNumber (b :: tail))
  else if b = 0x22 then some (skipString tail)
  else none

/-- Steps over a value and the containers on the stack that are open around it, innermost first
(`true` stands for an object). -/
def skip : (bound : Nat) → Skipping → (stack : List Bool) → Bytes → Except Fault Bytes
  | 0, _, _, rest => .error ⟨.tooDeep, rest⟩
  | bound + 1, .value, stack, rest =>
    match skipBlanks rest with
    | [] => .error ⟨.eofValue, []⟩
    | b :: tail =>
      match skipScalar? b tail with
      | some (.error f) => .error f
      | some (.ok rest) => skip bound .afterValue stack rest
      | none =>
        if b = 0x5B then
          match skipBlanks tail with
          | [] => .error (eofIn false)
          | c :: rest =>
            if c = 0x5D then skip bound .afterValue stack rest
            else skip bound .value (false :: stack) (c :: rest)
        else if b = 0x7B then
          match skipBlanks tail with
          | [] => .error (eofIn true)
          | c :: rest =>
            if c = 0x7D then skip bound .afterValue stack rest
            else skip bound .key (true :: stack) (c :: rest)
        else .error ⟨.expectedValue, tail⟩
  | bound + 1, .key, stack, rest =>
    match skipBlanks rest with
    | [] => .error (eofIn true)
    | b :: tail =>
      if b = 0x22 then
        match skipString tail with
        | .error f => .error f
        | .ok rest =>
          match skipBlanks rest with
          | [] => .error (eofIn true)
          | c :: rest =>
            if c = 0x3A then skip bound .value stack rest else .error ⟨.expectedColon, rest⟩
      else .error ⟨.keyNotString, tail⟩
  | _ + 1, .afterValue, [], rest => .ok rest
  | bound + 1, .afterValue, isObject :: stack, rest =>
    match skipBlanks rest with
    | [] => .error (eofIn isObject)
    | b :: tail =>
      if b = 0x2C then
        skip bound (if isObject then .key else .value) (isObject :: stack) tail
      else if b = (if isObject then 0x7D else 0x5D) then skip bound .afterValue stack tail
      else .error ⟨if isObject then .expectedObjectEnd else .expectedListEnd, tail⟩

/-- Steps over one value. -/
def skipValue (rest : Bytes) : Except Fault Bytes := skip (2 * rest.length + 4) .value [] rest

/-! ## Commas and brackets -/

/-- What comes next in a container. -/
inductive Next where
  | item (rest : Bytes)
  | stop (rest : Bytes)

/-- Moves to the next item of an array, or behind its bracket. -/
def nextItem (first : Bool) (rest : Bytes) : Except Fault Next :=
  match skipBlanks rest with
  | [] => .error ⟨.eofList, []⟩
  | b :: tail =>
    if b = 0x5D then .ok (.stop tail)
    else if first then .ok (.item (b :: tail))
    else if b = 0x2C then
      match skipBlanks tail with
      | [] => .error ⟨.eofValue, []⟩
      | c :: rest => if c = 0x5D then .error ⟨.trailingComma, rest⟩ else .ok (.item (c :: rest))
    else .error ⟨.expectedListEnd, tail⟩

/-- Moves behind the opening quote of the next key of an object, or behind its brace. -/
def nextKey (first : Bool) (rest : Bytes) : Except Fault Next :=
  match skipBlanks rest with
  | [] => .error ⟨.eofObject, []⟩
  | b :: tail =>
    if b = 0x7D then .ok (.stop tail)
    else if first then
      if b = 0x22 then .ok (.item tail) else .error ⟨.keyNotString, tail⟩
    else if b = 0x2C then
      match skipBlanks tail with
      | [] => .error ⟨.eofValue, []⟩
      | c :: rest =>
        if c = 0x22 then .ok (.item rest)
        else if c = 0x7D then .error ⟨.trailingComma, rest⟩
        else .error ⟨.keyNotString, rest⟩
    else .error ⟨.expectedObjectEnd, tail⟩

/-- Steps over the colon behind a key. -/
def expectColon (rest : Bytes) : Except Fault Bytes :=
  match skipBlanks rest with
  | [] => .error ⟨.eofObject, []⟩
  | b :: tail => if b = 0x3A then .ok tail else .error ⟨.expectedColon, tail⟩

/-- A key, its opening quote already read, and the colon behind it. -/
def scanKey (rest : Bytes) : Except Fault (String × Bytes) := do
  let (key, rest) ← scanString rest
  return (key, ← expectColon rest)

/-- Expects the bracket that closes a record written as an array. -/
def closeList (rest : Bytes) : Except Fault Bytes :=
  match skipBlanks rest with
  | [] => .error ⟨.eofList, []⟩
  | b :: tail =>
    if b = 0x5D then .ok tail
    else if b = 0x2C then
      match skipBlanks tail with
      | c :: rest =>
        if c = 0x5D then .error ⟨.trailingComma, rest⟩ else .error ⟨.trailingCharacters, rest⟩
      | [] => .error ⟨.trailingCharacters, []⟩
    else .error ⟨.trailingCharacters, tail⟩

/-! ## Values -/

/-- A scalar that starts with the byte `b`; none where `b` starts no scalar. -/
def scanScalar? (b : UInt8) (tail : Bytes) : Option (Except Fault (Json × Bytes)) :=
  if b = 0x6E then some ((expectWord [0x75, 0x6C, 0x6C] tail).map (null, ·))
  else if b = 0x74 then some ((expectWord [0x72, 0x75, 0x65] tail).map (bool true, ·))
  else if b = 0x66 then some ((expectWord [0x61, 0x6C, 0x73, 0x65] tail).map (bool false, ·))
  else if b = 0x2D then some (scanNumber true tail)
  else if isDigitByte b then some (scanNumber false (b :: tail))
  else if b = 0x22 then some ((scanString tail).map fun (s, rest) => (string s, rest))
  else none

mutual

/-- A value of any kind; `depth - 1` containers may still be opened. -/
def readAny : (bound depth : Nat) → Bytes → Except Fault (Json × Bytes)
  | 0, _, rest => .error ⟨.tooDeep, rest⟩
  | bound + 1, depth, rest =>
    match skipBlanks rest with
    | [] => .error ⟨.eofValue, []⟩
    | b :: tail =>
      match scanScalar? b tail with
      | some result => result
      | none =>
        if b = 0x5B then
          if depth ≤ 1 then .error ⟨.tooDeep, tail⟩
          else readItems bound (depth - 1) true [] tail
        else if b = 0x7B then
          if depth ≤ 1 then .error ⟨.tooDeep, tail⟩
          else readMembers bound (depth - 1) true [] tail
        else .error ⟨.expectedValue, tail⟩

/-- The items of an array behind its bracket. -/
def readItems : (bound depth : Nat) → (first : Bool) → (seen : List Json) → Bytes →
    Except Fault (Json × Bytes)
  | 0, _, _, _, rest => .error ⟨.tooDeep, rest⟩
  | bound + 1, depth, first, seen, rest =>
    match nextItem first rest with
    | .error f => .error f
    | .ok (.stop rest) => .ok (array seen.reverse, rest)
    | .ok (.item rest) =>
      match readAny bound depth rest with
      | .error f => .error f
      | .ok (item, rest) => readItems bound depth false (item :: seen) rest

/-- The members of an object behind its brace. -/
def readMembers : (bound depth : Nat) → (first : Bool) → (seen : List (String × Json)) → Bytes →
    Except Fault (Json × Bytes)
  | 0, _, _, _, rest => .error ⟨.tooDeep, rest⟩
  | bound + 1, depth, first, seen, rest =>
    match nextKey first rest with
    | .error f => .error f
    | .ok (.stop rest) => .ok (ofEntries seen.reverse, rest)
    | .ok (.item rest) =>
      match scanKey rest with
      | .error f => .error f
      | .ok (key, rest) =>
        match readAny bound depth rest with
        | .error f => .error f
        | .ok (value, rest) => readMembers bound depth false ((key, value) :: seen) rest

end

/-! ## Shapes -/

/-- The fault of a value that is not of the expected type: a scalar is read first, a container is
reported where it opens. -/
def typeFault (expected : String) (rest : Bytes) : Fault :=
  match rest with
  | [] => ⟨.eofValue, []⟩
  | b :: tail =>
    match scanScalar? b tail with
    | some (.error f) => f
    | some (.ok (v, after)) =>
      let found : Found := match v with
        | null => .null
        | bool b => .bool b
        | int n => .int n
        | float x => .float x
        | string s => .string s
        | array _ => .sequence
        | object _ => .map
      ⟨.wrongType found expected, after⟩
    | none =>
      if b = 0x5B then ⟨.wrongType .sequence expected, rest⟩
      else if b = 0x7B then ⟨.wrongType .map expected, rest⟩
      else ⟨.expectedValue, tail⟩

/-- A string. -/
def readText (rest : Bytes) : Except Fault (Json × Bytes) :=
  match skipBlanks rest with
  | [] => .error ⟨.eofValue, []⟩
  | b :: tail =>
    if b = 0x22 then (scanString tail).map fun (s, rest) => (string s, rest)
    else .error (typeFault "a string" (b :: tail))

/-- A number that `accept` takes, as `expected`. -/
def readNumber (expected : String) (accept : Json → Except Issue Json) (rest : Bytes) :
    Except Fault (Json × Bytes) :=
  match skipBlanks rest with
  | [] => .error ⟨.eofValue, []⟩
  | b :: tail =>
    let literal? :=
      if b = 0x2D then some (scanNumber true tail)
      else if isDigitByte b then some (scanNumber false (b :: tail))
      else none
    match literal? with
    | none => .error (typeFault expected (b :: tail))
    | some (.error f) => .error f
    | some (.ok (v, rest)) =>
      match accept v with
      | .ok v => .ok (v, rest)
      | .error issue => .error ⟨issue, rest⟩

/-- Any number. -/
def acceptNumber (v : Json) : Except Issue Json :=
  match v with
  | int _ | float _ => .ok v
  | _ => .error .invalidNumber

/-- A number as an integer within 32 unsigned bits. -/
def acceptWord32 (v : Json) : Except Issue Json :=
  match v with
  | int n => if 0 ≤ n ∧ n < UInt32.size then .ok v else .error (.wrongValue (.int n) "u32")
  | float x => .error (.wrongType (.float x) "u32")
  | _ => .error .invalidNumber

/-- Behind the brace of a case that is written as an object: its name, `null` and the closing brace,
and nothing else. -/
def readCaseMember (rest : Bytes) : Except Fault (Json × Bytes) :=
  match skipBlanks rest with
  | [] => .error ⟨.eofValue, []⟩
  | b :: tail =>
    if b = 0x22 then do
      let (name, rest) ← scanKey tail
      match skipBlanks rest with
      | [] => .error ⟨.eofValue, []⟩
      | b :: tail =>
        if b = 0x6E then do
          let rest ← expectWord [0x75, 0x6C, 0x6C] tail
          match skipBlanks rest with
          | [] => .error ⟨.eofObject, []⟩
          | c :: rest =>
            if c = 0x7D then .ok (object [(name, null)], rest) else .error ⟨.expectedValue, rest⟩
        else .error (typeFault "unit" (b :: tail))
    else .error (typeFault "variant identifier" (b :: tail))

/-- The name of a case without contents: a string, or the key of an object that holds nothing but
`null` under it. -/
def readCaseName (depth : Nat) (rest : Bytes) : Except Fault (Json × Bytes) :=
  match skipBlanks rest with
  | [] => .error ⟨.eofValue, []⟩
  | b :: tail =>
    if b = 0x22 then (scanString tail).map fun (s, rest) => (string s, rest)
    else if b = 0x7B then
      if depth ≤ 1 then .error ⟨.tooDeep, tail⟩ else readCaseMember tail
    else .error ⟨.expectedValue, tail⟩

/-- The place of a fault that a record finds in its own fields: behind the brace that closes the
record, where it follows at once. -/
def behindBrace (rest : Bytes) : Bytes :=
  match skipBlanks rest with
  | [] => []
  | b :: tail => if b = 0x7D then tail else b :: tail

mutual

/-- A value of a shape; `depth - 1` containers may still be opened. -/
def readShape : (bound depth : Nat) → Shape → Bytes → Except Fault (Json × Bytes)
  | 0, _, _, rest => .error ⟨.tooDeep, rest⟩
  | bound + 1, depth, .any, rest => readAny (bound + 1) depth rest
  | _ + 1, _, .text, rest => readText rest
  | _ + 1, _, .word32, rest => readNumber "u32" acceptWord32 rest
  | _ + 1, _, .number, rest => readNumber "f64" acceptNumber rest
  | _ + 1, depth, .caseName, rest => readCaseName depth rest
  | bound + 1, depth, .optional inner, rest =>
    match skipBlanks rest with
    | [] => readShape bound depth inner []
    | b :: tail =>
      if b = 0x6E then (expectWord [0x75, 0x6C, 0x6C] tail).map (null, ·)
      else readShape bound depth inner (b :: tail)
  | bound + 1, depth, .list item, rest =>
    match skipBlanks rest with
    | [] => .error ⟨.eofValue, []⟩
    | b :: tail =>
      if b = 0x5B then
        if depth ≤ 1 then .error ⟨.tooDeep, tail⟩
        else readShapes bound (depth - 1) item true [] tail
      else .error (typeFault "a sequence" (b :: tail))
  | bound + 1, depth, .record label fields atLeast, rest =>
    match skipBlanks rest with
    | [] => .error ⟨.eofValue, []⟩
    | b :: tail =>
      if b = 0x5B then
        if depth ≤ 1 then .error ⟨.tooDeep, tail⟩
        else readRow bound (depth - 1) label fields.length atLeast fields [] tail
      else if b = 0x7B then
        if depth ≤ 1 then .error ⟨.tooDeep, tail⟩
        else readFields bound (depth - 1) fields true [] tail
      else .error (typeFault label (b :: tail))

/-- The items of an array of one shape, behind its bracket. -/
def readShapes : (bound depth : Nat) → Shape → (first : Bool) → (seen : List Json) → Bytes →
    Except Fault (Json × Bytes)
  | 0, _, _, _, _, rest => .error ⟨.tooDeep, rest⟩
  | bound + 1, depth, item, first, seen, rest =>
    match nextItem first rest with
    | .error f => .error f
    | .ok (.stop rest) => .ok (array seen.reverse, rest)
    | .ok (.item rest) =>
      match readShape bound depth item rest with
      | .error f => .error f
      | .ok (v, rest) => readShapes bound depth item false (v :: seen) rest

/-- The fields of a record written as an array, behind its bracket: `fields` are still to come. -/
def readRow : (bound depth : Nat) → (label : String) → (width atLeast : Nat) →
    (fields : List (String × Shape)) → (seen : List Json) → Bytes → Except Fault (Json × Bytes)
  | 0, _, _, _, _, _, _, rest => .error ⟨.tooDeep, rest⟩
  | _ + 1, _, _, _, _, [], seen, rest => (closeList rest).map (array seen.reverse, ·)
  | bound + 1, depth, label, width, atLeast, (_, shape) :: fields, seen, rest =>
    match nextItem seen.isEmpty rest with
    | .error f => .error f
    | .ok (.stop rest) =>
      if atLeast ≤ seen.length then .ok (array seen.reverse, rest)
      else .error ⟨.tooFewItems seen.length s!"{label} with {width} elements", rest⟩
    | .ok (.item rest) =>
      match readShape bound depth shape rest with
      | .error f => .error f
      | .ok (v, rest) => readRow bound depth label width atLeast fields (v :: seen) rest

/-- The members of a record written as an object, behind its brace. -/
def readFields : (bound depth : Nat) → (fields : List (String × Shape)) → (first : Bool) →
    (seen : List (String × Json)) → Bytes → Except Fault (Json × Bytes)
  | 0, _, _, _, _, rest => .error ⟨.tooDeep, rest⟩
  | bound + 1, depth, fields, first, seen, rest =>
    match nextKey first rest with
    | .error f => .error f
    | .ok (.stop rest) => .ok (ofEntries seen.reverse, rest)
    | .ok (.item rest) =>
      match scanString rest with
      | .error f => .error f
      | .ok (key, rest) =>
        match fields.lookup key with
        | none =>
          match expectColon rest >>= skipValue with
          | .error f => .error f
          | .ok rest => readFields bound depth fields false seen rest
        | some shape =>
          if (seen.lookup key).isSome then .error ⟨.duplicateField key, behindBrace rest⟩
          else
            match expectColon rest with
            | .error f => .error f
            | .ok rest =>
              match readShape bound depth shape rest with
              | .error f => .error f
              | .ok (v, rest) => readFields bound depth fields false ((key, v) :: seen) rest

end

/-- How many containers may be open at once, plus one. -/
def depthLimit : Nat := 128

/-- Reads a whole text for a shape; only blanks may follow the value. -/
def read (shape : Shape) (whole : Bytes) : Except Fault Json :=
  match readShape (4 * whole.length + 8) depthLimit shape whole with
  | .error f => .error f
  | .ok (v, rest) =>
    match skipBlanks rest with
    | [] => .ok v
    | _ :: tail => .error ⟨.trailingCharacters, tail⟩

/-- Reads a whole text for a shape, if it has no fault. -/
def read? (shape : Shape) (whole : Bytes) : Option Json := (read shape whole).toOption

end Json

end SearchGateway
