import ApiAtlas.Lookup.TypeUsage
import ApiAtlas.Request.Error
import ApiAtlas.Search.Query

/-! # Request forms

A form lists the fields of a request with their names, descriptions and shapes. From a form follow
both how arguments are read and the schema that describes them.

Arguments are an object, or an array with the fields by position. In an object the fields that are
present are read in the order of their keys, and the first that cannot be read is reported; only
then are missing fields reported, in the order of the form. Keys that the form does not have are
ignored.
-/

namespace ApiAtlas

/-- What a field may hold. -/
inductive FieldShape where
  | text
  | optionalText
  | optionalFlag
  | optionalKind
  | optionalLimit
  | optionalWord
  | direction
deriving DecidableEq, Repr

namespace FieldShape

/-- The values of a shape. -/
abbrev Value : FieldShape → Type
  | text => String
  | optionalText => Option String
  | optionalFlag => Option Bool
  | optionalKind => Option RecordKind
  | optionalLimit => Option Nat
  | optionalWord => Option UInt32
  | direction => Direction

/-- Read a text. -/
def readText : Json → Except DecodeError String
  | .str value => .ok value
  | other => .error (.invalidType other "a string")

/-- Read a truth value. -/
def readFlag : Json → Except DecodeError Bool
  | .bool value => .ok value
  | other => .error (.invalidType other "a boolean")

/-- Read a number below a bound. -/
def readNumber (bound : Nat) (expected : String) : Json → Except DecodeError Nat
  | .int n =>
    if 0 ≤ n ∧ n.toNat < bound then .ok n.toNat else .error (.invalidValue (.int n) expected)
  | other => .error (.invalidType other expected)

/-- Read a name that stands for one of some values. A name may also be written as the only key of
an object whose value is null. -/
def readVariant (values : List α) (label : α → String) : Json → Except DecodeError α
  | .str name => find name
  | .obj [(name, content)] => do
    let value ← find name
    match content with
    | .null => return value
    | other => .error (.invalidType other "unit")
  | .obj fields => .error (.invalidValue (.obj fields) "map with a single key")
  | other => .error (.invalidType other "string or map")
where
  find (name : String) : Except DecodeError α :=
    match values.find? fun value => label value == name with
    | some value => .ok value
    | none => .error (.unknownVariant name (values.map label))

/-- Read a value that may be null. -/
def readOptional (read : Json → Except DecodeError α) : Json → Except DecodeError (Option α)
  | .null => .ok none
  | value => (read value).map some

/-- Read a value of a shape. -/
def read : (shape : FieldShape) → Json → Except DecodeError shape.Value
  | text => readText
  | optionalText => readOptional readText
  | optionalFlag => readOptional readFlag
  | optionalKind => readOptional (readVariant RecordKind.all RecordKind.label)
  | optionalLimit => readOptional (readNumber UInt64.size "usize")
  | optionalWord => readOptional fun value => (readNumber UInt32.size "u32" value).map UInt32.ofNat
  | direction => readVariant Direction.all Direction.label

/-- The value of a field that an object does not have. -/
def absent? : (shape : FieldShape) → Option shape.Value
  | text => none
  | optionalText => some none
  | optionalFlag => some none
  | optionalKind => some none
  | optionalLimit => some (some defaultLimit)
  | optionalWord => some none
  | direction => some .both

/-- The value of a field that an array is too short for. -/
def omitted? : (shape : FieldShape) → Option shape.Value
  | optionalWord => none
  | shape => shape.absent?

end FieldShape

/-- A field of a request. -/
structure Field where
  name : String
  description : String
  shape : FieldShape
deriving DecidableEq, Repr

/-- The fields of a request, under the name of the request. -/
structure Form where
  title : String
  fields : List Field
deriving DecidableEq, Repr

namespace Form

/-- One value for every field. -/
abbrev Values : List Field → Type
  | [] => Unit
  | field :: fields => field.shape.Value × Values fields

/-- Report the first field, in the order of the object, that cannot be read. -/
def checkPresent (fields : List Field) : List (String × Json) → Except DecodeError Unit
  | [] => .ok ()
  | (key, value) :: rest => do
    match fields.find? fun field => field.name == key with
    | some field => discard (field.shape.read value)
    | none => pure ()
    checkPresent fields rest

/-- The values of the fields of an object. -/
def readObject (entries : List (String × Json)) :
    (fields : List Field) → Except DecodeError (Values fields)
  | [] => .ok ()
  | field :: fields => do
    let value ← match Json.lookup? field.name entries with
      | some value => field.shape.read value
      | none => match field.shape.absent? with
        | some value => .ok value
        | none => .error (.missingField field.name)
    let values ← readObject entries fields
    return (value, values)

/-- The error for an array of a wrong length. -/
def lengthError (form : Form) (length : Nat) : DecodeError :=
  let count := form.fields.length
  .invalidLength length ("struct " ++ form.title ++ " with " ++ toString count ++
    (if count = 1 then " element" else " elements"))

/-- The values of the fields of an array, of which `seen` items are already read, and the number of
items that are left over. -/
def readArray (form : Form) (seen : Nat) (items : List Json) :
    (fields : List Field) → Except DecodeError (Values fields × Nat)
  | [] => .ok ((), items.length)
  | field :: fields =>
    match items with
    | item :: items => do
      let value ← field.shape.read item
      let (values, left) ← readArray form (seen + 1) items fields
      return ((value, values), left)
    | [] => do
      let value ← match field.shape.omitted? with
        | some value => .ok value
        | none => .error (form.lengthError seen)
      let (values, left) ← readArray form seen [] fields
      return ((value, values), left)

/-- The values that arguments give to the fields of a form. -/
def read (form : Form) : Json → Except DecodeError (Values form.fields)
  | .obj entries => do
    checkPresent form.fields entries
    readObject entries form.fields
  | .arr items => do
    let (values, left) ← readArray form 0 items form.fields
    if left = 0 then return values
    else .error (.invalidLength items.length "fewer elements in array")
  | other => .error (.invalidType other ("struct " ++ form.title))

end Form

/-- The fields of a source location. -/
def SourceLocation.form : Form :=
  ⟨"SourceLocation", [⟨"file", "File name relative to the headers directory", .text⟩,
    ⟨"line", "Line of the documentation block", .optionalWord⟩]⟩

/-- The source location that arguments give. -/
def SourceLocation.read (arguments : Json) : Except DecodeError SourceLocation :=
  (SourceLocation.form.read arguments).map fun (file, line, _) => ⟨file, line⟩

end ApiAtlas
