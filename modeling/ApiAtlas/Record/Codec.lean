import ApiAtlas.Json.Basic
import ApiAtlas.Record

/-! # Records as Json

A record is one flat object: the shared fields, the kind under the key `kind`, and the fields of
its details. Writing always writes every field, with null for what is absent. Reading takes null
and a missing key alike for fields that may be absent, ignores keys it does not know, and refuses
everything else: a missing or ill-typed field, an unknown kind, a line or a reading order that does
not fit into 32 bits. A nested structure may also be written as the array of its fields in order.
-/

namespace ApiAtlas

namespace Json

/-- A number of 32 bits. -/
def word32? : Json → Option UInt32
  | int n => if 0 ≤ n ∧ n.toNat < UInt32.size then some (UInt32.ofNat n.toNat) else none
  | _ => none

/-- The fields of a structure in the order of `keys`: from an object by key, from an array by
position. -/
def struct? (keys : List String) : Json → Option (List (Option Json))
  | obj fields => some (keys.map fun key => lookup? key fields)
  | arr items => if items.length = keys.length then some (items.map some) else none
  | _ => none

/-- A field that must be there. -/
def required (read : Json → Option α) (field : Option Json) : Option α :=
  field.bind read

/-- A field that may be null or missing. -/
def optional (read : Json → Option α) : Option Json → Option (Option α)
  | none => some none
  | some null => some none
  | some value => (read value).map some

/-- All items of a list. -/
def readAll (read : Json → Option α) : List Json → Option (List α)
  | [] => some []
  | item :: items => do
    let value ← read item
    let values ← readAll read items
    return value :: values

/-- An array, each of whose items can be read. -/
def list? (read : Json → Option α) : Json → Option (List α)
  | arr items => readAll read items
  | _ => none

end Json

open Json

namespace SourceLocation

/-- A source location as an object. -/
def toJson (source : SourceLocation) : Json :=
  obj [("file", str source.file), ("line", ofOption (fun line => nat line.toNat) source.line)]

/-- The source location that a value writes. -/
def ofJson? (value : Json) : Option SourceLocation := do
  match ← struct? ["file", "line"] value with
  | [file, line] => return ⟨← required str? file, ← optional word32? line⟩
  | _ => none

end SourceLocation

namespace Parameter

/-- A parameter as an object. -/
def toJson (parameter : Parameter) : Json :=
  obj [("name", str parameter.name), ("description", str parameter.description)]

/-- The parameter that a value writes. -/
def ofJson? (value : Json) : Option Parameter := do
  match ← struct? ["name", "description"] value with
  | [name, description] => return ⟨← required str? name, ← required str? description⟩
  | _ => none

end Parameter

namespace Member

/-- A member as an object. -/
def toJson (member : Member) : Json :=
  obj [("declaration", str member.declaration), ("description", str member.description)]

/-- The member that a value writes. -/
def ofJson? (value : Json) : Option Member := do
  match ← struct? ["declaration", "description"] value with
  | [declaration, description] => return ⟨← required str? declaration, ← required str? description⟩
  | _ => none

end Member

namespace EnumEntry

/-- An entry as an object. -/
def toJson (entry : EnumEntry) : Json :=
  obj [("name", str entry.name), ("value", str entry.value),
    ("description", str entry.description)]

/-- The entry that a value writes. -/
def ofJson? (value : Json) : Option EnumEntry := do
  match ← struct? ["name", "value", "description"] value with
  | [name, literal, description] =>
    return ⟨← required str? name, ← required str? literal, ← required str? description⟩
  | _ => none

end EnumEntry

namespace GuideSection

/-- A section as an object. -/
def toJson (part : GuideSection) : Json :=
  obj [("title", str part.title), ("body", str part.body)]

/-- The section that a value writes. -/
def ofJson? (value : Json) : Option GuideSection := do
  match ← struct? ["title", "body"] value with
  | [title, body] => return ⟨← required str? title, ← required str? body⟩
  | _ => none

end GuideSection

/-- The kind that a value names, or counts from zero. -/
def RecordKind.ofJson? : Json → Option RecordKind
  | .str label => ofLabel? label
  | .int n => if 0 ≤ n then all[n.toNat]? else none
  | _ => none

namespace Details

/-- The fields that are particular to a kind. -/
def toFields : Details → List (String × Json)
  | .function f =>
    [("signature", ofOption str f.signature),
      ("parameters", arr (f.parameters.map Parameter.toJson)),
      ("return_description", ofOption str f.returnDescription)]
  | .struct members => [("members", arr (members.map Member.toJson))]
  | .enum entries => [("entries", arr (entries.map EnumEntry.toJson))]
  | .topic t =>
    [("content", str t.content),
      ("sections", arr (t.sections.map GuideSection.toJson)),
      ("function_references", strs t.functionReferences),
      ("struct_references", strs t.structReferences),
      ("enum_references", strs t.enumReferences),
      ("topic_references", strs t.topicReferences),
      ("reading_order", ofOption (fun order => nat order.toNat) t.readingOrder)]

/-- The details of a kind from the fields of a record. -/
def ofFields? (fields : List (String × Json)) : RecordKind → Option Details
  | .function => do
    let signature ← optional str? (lookup? "signature" fields)
    let parameters ← required (list? Parameter.ofJson?) (lookup? "parameters" fields)
    let returnDescription ← optional str? (lookup? "return_description" fields)
    return .function ⟨signature, parameters, returnDescription⟩
  | .struct => do
    let members ← required (list? Member.ofJson?) (lookup? "members" fields)
    return .struct members
  | .enum => do
    let entries ← required (list? EnumEntry.ofJson?) (lookup? "entries" fields)
    return .enum entries
  | .topic => do
    let content ← required str? (lookup? "content" fields)
    let sections ← required (list? GuideSection.ofJson?) (lookup? "sections" fields)
    let functions ← required (list? str?) (lookup? "function_references" fields)
    let structs ← required (list? str?) (lookup? "struct_references" fields)
    let enums ← required (list? str?) (lookup? "enum_references" fields)
    let topics ← required (list? str?) (lookup? "topic_references" fields)
    let order ← optional word32? (lookup? "reading_order" fields)
    return .topic ⟨content, sections, functions, structs, enums, topics, order⟩

end Details

namespace Record

/-- The fields of a record, shared ones first. -/
def toFields (record : Record) : List (String × Json) :=
  [("name", str record.name), ("category", ofOption str record.category),
    ("brief", ofOption str record.brief), ("remarks", ofOption str record.remarks),
    ("example", ofOption str record.exampleCode),
    ("example_brief", ofOption str record.exampleBrief), ("related", strs record.related),
    ("source", ofOption SourceLocation.toJson record.source), ("kind", str record.kind.label)] ++
    record.details.toFields

/-- A record as a flat object. -/
def toJson (record : Record) : Json :=
  obj record.toFields

/-- The record that the fields of an object write. -/
def ofFields? (fields : List (String × Json)) : Option Record := do
  let name ← required str? (lookup? "name" fields)
  let category ← optional str? (lookup? "category" fields)
  let brief ← optional str? (lookup? "brief" fields)
  let remarks ← optional str? (lookup? "remarks" fields)
  let exampleCode ← optional str? (lookup? "example" fields)
  let exampleBrief ← optional str? (lookup? "example_brief" fields)
  let related ← required (list? str?) (lookup? "related" fields)
  let source ← optional SourceLocation.ofJson? (lookup? "source" fields)
  let kind ← required RecordKind.ofJson? (lookup? "kind" fields)
  let details ← Details.ofFields? fields kind
  return { name, category, brief, remarks, exampleCode, exampleBrief, related, source, details }

/-- The record that a value writes. -/
def ofJson? : Json → Option Record
  | .obj fields => ofFields? fields
  | _ => none

end Record

end ApiAtlas
