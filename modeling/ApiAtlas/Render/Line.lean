import ApiAtlas.Catalog.Basic

/-! # One-line forms of records

Lists of records show every record on a line of its own, and functions their signature on a second,
indented line.
-/

namespace ApiAtlas.Render

/-- A line with its line feed. -/
def line (text : String) : String := text ++ "\n"

/-- The same lines for every item. -/
def linesOf (items : List α) (form : α → String) : String :=
  String.join (items.map form)

/-- The indented line with the signature of a function. -/
def signatureLine (record : Record) : String :=
  match record.signature? with
  | some signature => line ("  `" ++ signature ++ "`")
  | none => ""

/-- What a summary says about kind and category. -/
def kindNote (record : Record) : String :=
  if record.isTopic then "topic"
  else match record.categoryName? with
    | some category => record.kind.label ++ ", " ++ category
    | none => record.kind.label

/-- A record in a list of search results. -/
def summary (record : Record) : String :=
  line ("- **" ++ record.name ++ "** `(" ++ kindNote record ++ ")` — " ++ record.briefText) ++
    signatureLine record

/-- A guide in a list of guides. -/
def topicLine (record : Record) : String :=
  line ("- **" ++ record.name ++ "** — " ++ record.briefText)

/-- A record that another one refers to. -/
def referenceLine (record : Record) : String :=
  line ("- `" ++ record.name ++ "` (" ++ record.kind.label ++ ") — " ++ record.briefText)

/-- A name that is referred to, with what the catalog knows about it. -/
def apiReference (catalog : Catalog) (name : String) : String :=
  match catalog.find? name with
  | some record => referenceLine record
  | none => line ("- `" ++ name ++ "`")

end ApiAtlas.Render
