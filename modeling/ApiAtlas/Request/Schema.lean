import ApiAtlas.Request.Form

/-! # Schemas of request forms

The schema of a form tells clients the names, types and defaults of its fields.
-/

namespace ApiAtlas

open Json

/-- What a schema says about the values of a shape. -/
def FieldShape.schema : FieldShape → List (String × Json)
  | text => [("type", str "string")]
  | optionalText => [("type", str "string"), ("nullable", bool true), ("default", null)]
  | optionalFlag => [("type", str "boolean"), ("nullable", bool true), ("default", null)]
  | optionalKind =>
    [("type", str "string"),
      ("enum", arr (RecordKind.all.map (fun kind => str kind.label) ++ [null])),
      ("nullable", bool true), ("default", null)]
  | optionalLimit =>
    [("type", str "integer"), ("format", str "uint"), ("minimum", nat 0),
      ("nullable", bool true), ("default", nat defaultLimit)]
  | optionalWord =>
    [("type", str "integer"), ("format", str "uint32"), ("minimum", nat 0),
      ("nullable", bool true), ("default", null)]
  | direction =>
    [("type", str "string"), ("enum", strs (Direction.all.map Direction.label)),
      ("default", str Direction.both.label)]

/-- What a schema says about a field. -/
def Field.schema (field : Field) : Json :=
  ofFields (("description", str field.description) :: field.shape.schema)

/-- The schema of a form. Only fields without a default are required. -/
def Form.schema (form : Form) : Json :=
  let required := form.fields.filter fun field => field.shape.absent?.isNone
  ofFields
    ([("$schema", str "http://json-schema.org/draft-07/schema#"), ("type", str "object"),
      ("title", str form.title),
      ("properties", ofFields (form.fields.map fun field => (field.name, field.schema)))] ++
      if required.isEmpty then [] else [("required", strs (required.map Field.name))])

end ApiAtlas
