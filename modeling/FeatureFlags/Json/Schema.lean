import FeatureFlags.Json.Reader

/-!
# Shapes of data

A `Schema` describes the data that are read. A value of a schema is obtained in two ways:
`Schema.read` reads lexemes, skips unknown members and stops at the first fault; `Schema.fit?` fits
a value that has been read as a whole. Both yield a normal form: a record becomes the list of its
fields in the order of the schema, with defaults for missing ones.

A record can be written as an object, with its members in any order and among others, each known one
at most once, or as the list of its fields, where trailing fields with a default can be left out.
-/

namespace FeatureFlags.Json

mutual
/-- A shape of values. -/
inductive Schema where
  /-- Any value. -/
  | any
  /-- A text. -/
  | text
  /-- A boolean. -/
  | boolean
  /-- A list of values of one shape. -/
  | list (item : Schema)
  /-- A record. -/
  | record (fields : Fields)

/-- The fields of a record: each has a name and a shape, and possibly a default. -/
inductive Fields where
  | nil
  | cons (name : String) (missing : Option Json) (shape : Schema) (rest : Fields)
end

namespace Fields

/-- The names of the fields and their defaults. -/
def defaults : Fields → List (String × Option Json)
  | nil => []
  | cons name missing _ rest => (name, missing) :: rest.defaults

end Fields

/-- The values that have been found for the fields of a record, in their order. -/
abbrev Found := List (Option Json)

/-- Fills in defaults; none if a field without a default is missing. -/
def fillIn : List (String × Option Json) → Found → Option (List Json)
  | [], _ => some []
  | (_, missing) :: fields, found => do
    let v ← (found.headD none).or missing
    let rest ← fillIn fields found.tail
    some (v :: rest)

/-! ## Reading -/

/-- Readers of the fields of a record, by name. -/
abbrev FieldReaders := List (String × (Nat → Reader Json))

/-- The place of a name among the fields, and the reader there. -/
def findField (name : String) : Nat → FieldReaders → Option (Nat × (Nat → Reader Json))
  | _, [] => none
  | i, (n, r) :: rest => if n = name then some (i, r) else findField name (i + 1) rest

/-- Reads a member of a record from its colon on. A repeated field is a misfit, and unknown members are
skipped. -/
def readField (readers : FieldReaders) (depth : Nat) (found : Found) (name : String) : Reader Found :=
  fun ls =>
    match findField name 0 readers with
    | none => do
      let rest ← skipValue (← skipColon ls)
      .ok (found, rest)
    | some (i, r) =>
      if (found.getD i none).isSome then .error .misfit
      else do
        let (v, rest) ← r depth (← skipColon ls)
        .ok (found.set i (some v), rest)

/-- Reads the fields of a record from a list, up to its closing bracket, which is left. The list can end
where all further fields have a default. -/
def readFieldItems (depth : Nat) : Bool → List (Option Json × (Nat → Reader Json)) → Reader (List Json)
  | _, [], ls => .ok ([], ls)
  | isFirst, (missing, r) :: fields, ls =>
    match ls, isFirst with
    | .closeBracket :: _, _ =>
      match missing with
      | some v => do
        let (vs, rest) ← readFieldItems depth isFirst fields ls
        .ok (v :: vs, rest)
      | none => .error .misfit
    | [], _ => .error .endsEarly
    | ls, true => do
      let (v, rest) ← r depth ls
      let (vs, rest) ← readFieldItems depth false fields rest
      .ok (v :: vs, rest)
    | .comma :: ls, false =>
      match ls with
      | .closeBracket :: _ => .error .malformed
      | ls => do
        let (v, rest) ← r depth ls
        let (vs, rest) ← readFieldItems depth false fields rest
        .ok (v :: vs, rest)
    | _, false => .error .malformed

/-- The closing bracket of a list whose items are all known. -/
def skipCloseBracket : List Lexeme → Except Fault (List Lexeme)
  | .closeBracket :: rest => .ok rest
  | ls => .error (unexpected ls)

def readRecord (defaults : List (String × Option Json)) (readers : FieldReaders) (depth : Nat) :
    Reader Json
  | .openBrace :: ls =>
    nested depth (fun depth ls => do
      let nothing : Found := defaults.map fun _ => none
      let (found, rest) ← readMembers readName (readField readers depth) ls.length true nothing ls
      match fillIn defaults found with
      | some vs => .ok (.array vs, ← skipCloseBrace rest)
      | none => .error .misfit) ls
  | .openBracket :: ls =>
    nested depth (fun depth ls => do
      let fields := (defaults.zip readers).map fun p => (p.1.2, p.2.2)
      let (vs, rest) ← readFieldItems depth true fields ls
      .ok (.array vs, ← skipCloseBracket rest)) ls
  | ls => .error (misfit ls)

def readList (item : Nat → Reader Json) (depth : Nat) : Reader Json
  | .openBracket :: ls =>
    nested depth (fun depth ls => do
      let (items, rest) ← readItems (item depth) ls.length true ls
      .ok (.array items, rest)) ls
  | ls => .error (misfit ls)

mutual
/-- Reads a value of a shape inside `depth` lists and objects. -/
def Schema.read : Schema → Nat → Reader Json
  | .any, depth => readValue depth
  | .text, _ => fun ls =>
    match ls with
    | .text (some s) :: rest => .ok (.text s, rest)
    | ls => .error (misfit ls)
  | .boolean, _ => fun ls =>
    match ls with
    | .boolean b :: rest => .ok (.boolean b, rest)
    | ls => .error (misfit ls)
  | .list item, depth => readList item.read depth
  | .record fields, depth => readRecord fields.defaults fields.readers depth

def Fields.readers : Fields → FieldReaders
  | .nil => []
  | .cons name _ shape rest => (name, shape.read) :: rest.readers
end

/-! ## Fitting -/

/-- The values of a record's fields among members, given by what fits each field; nothing if a field
occurs twice or does not fit. -/
def fitMembers (fits : List (String × (Json → Option Json))) :
    Found → List (String × Json) → Option Found
  | found, [] => some found
  | found, (name, v) :: rest =>
    match fits.findIdx? (·.1 == name) with
    | none => fitMembers fits found rest
    | some i =>
      if (found.getD i none).isSome then none
      else
        match (fits[i]?).bind (·.2 v) with
        | some w => fitMembers fits (found.set i (some w)) rest
        | none => none

/-- The values of a record's fields among the items of a list. -/
def fitItems : List (String × (Json → Option Json)) → List Json → Option Found
  | [], [] => some []
  | [], _ :: _ => none
  | _ :: fits, [] => (fitItems fits []).map (none :: ·)
  | (_, fit) :: fits, v :: rest => do
    let w ← fit v
    let found ← fitItems fits rest
    some (some w :: found)

def fitRecord (defaults : List (String × Option Json)) (fits : List (String × (Json → Option Json))) :
    Json → Option Json
  | .object members => do
    let found ← fitMembers fits (defaults.map fun _ => none) members
    let vs ← fillIn defaults found
    some (.array vs)
  | .array items => do
    let found ← fitItems fits items
    let vs ← fillIn defaults found
    some (.array vs)
  | _ => none

mutual
def Schema.fit? : Schema → Json → Option Json
  | .any, v => some v
  | .text, v =>
    match v with
    | .text s => some (.text s)
    | _ => none
  | .boolean, v =>
    match v with
    | .boolean b => some (.boolean b)
    | _ => none
  | .list item, v =>
    match v with
    | .array items => (items.mapM item.fit?).map .array
    | _ => none
  | .record fields, v => fitRecord fields.defaults fields.fits v

def Fields.fits : Fields → List (String × (Json → Option Json))
  | .nil => []
  | .cons name _ shape rest => (name, shape.fit?) :: rest.fits
end

end FeatureFlags.Json
