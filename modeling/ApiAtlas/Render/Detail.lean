import ApiAtlas.Render.Line
import ApiAtlas.Render.SourceLinks

/-! # The full text of a record

The page of a record: its head, its description, what is particular to its kind in tables, remarks,
example, related items, and the guides that mention it. A guide shows its own text and the items it
mentions. The cells of a table stay on one line.
-/

namespace ApiAtlas.Render

open Text

/-- A text as the cell of a table. -/
def cell (text : String) : String :=
  String.ofList (replaceChar '\n' [' '] (replaceChar '|' ['\\', '|'] text.toList))

/-- A text in a block of code. -/
def codeBlock (text : String) : String :=
  line ("```c\n" ++ text ++ "\n```\n")

/-- Something to show for a text that is there. -/
def ifPresent (text : Option String) (form : String → String) : String :=
  match text with
  | some text => form text
  | none => ""

/-- Something to show for a text that is there and not empty. -/
def ifNonempty (text : Option String) (form : String → String) : String :=
  ifPresent (text.filter (· ≠ "")) form

/-- A table under a heading. A table without rows is left out. -/
def table (title head rule : String) (rows : List String) : String :=
  if rows.isEmpty then ""
  else line ("## " ++ title ++ "\n") ++ line head ++ line rule ++ linesOf rows line ++ line ""

/-- The row of a parameter. -/
def parameterRow (parameter : Parameter) : String :=
  "| `" ++ parameter.name ++ "` | " ++ cell parameter.description ++ " |"

/-- The row of a member. -/
def memberRow (member : Member) : String :=
  "| `" ++ member.declaration ++ "` | " ++ cell member.description ++ " |"

/-- The row of an entry. -/
def entryRow (entry : EnumEntry) : String :=
  "| `" ++ entry.name ++ "` | " ++ cell entry.value ++ " | " ++ cell entry.description ++ " |"

/-- Name, kind, category and source of a record. -/
def head (record : Record) : String :=
  line ("# " ++ record.name ++ "\n") ++
    line ("- **Type:** " ++ record.kind.label) ++
    ifPresent record.categoryName? (fun category => line ("- **Category:** " ++ category)) ++
    (match record.source with
      | some source =>
        let links := source.links
        line ("- **Source:** [" ++ links.headerPath ++ "](" ++ links.blob ++ ")") ++
          line ("- **Raw:** " ++ links.raw) ++
          line ("- **Implementation:** " ++ links.implementation)
      | none => "") ++
    line ""

/-- The part of a page that depends on the kind of the record. -/
def particulars : Details → String
  | .function f =>
    table "Parameters" "| Parameter | Description |" "| --- | --- |"
        (f.parameters.map parameterRow) ++
      ifNonempty f.returnDescription fun text => line ("## Return Value\n" ++ text ++ "\n")
  | .struct members =>
    table "Members" "| Member | Description |" "| --- | --- |" (members.map memberRow)
  | .enum entries =>
    table "Values" "| Name | Value | Description |" "| --- | --- | --- |" (entries.map entryRow)
  | .topic _ => ""

/-- The example of a record, introduced by its brief. -/
def exampleBlock (record : Record) : String :=
  ifNonempty record.exampleCode fun code =>
    line "## Example" ++ ifPresent record.exampleBrief line ++ codeBlock code

/-- A list of names under a heading. A list without names is left out. -/
def nameList (title : String) (names : List String) (form : String → String) : String :=
  if names.isEmpty then "" else line ("## " ++ title) ++ linesOf names form ++ line ""

/-- The guides that mention a record. -/
def mentioningTopics (catalog : Catalog) (name : String) : String :=
  let topics := catalog.topicsFor name
  if topics.isEmpty then ""
  else line "## Related Topics" ++ linesOf topics topicLine ++
    line "\n_Use `cf_get_topic` with a topic name to read the full guide._"

/-- The page of a function, struct or enum. -/
def itemDetail (catalog : Catalog) (record : Record) : String :=
  head record ++
    ifPresent record.signature? (fun signature => line "## Signature" ++ codeBlock signature) ++
    line "## Description" ++ ifPresent record.brief line ++ line "" ++
    particulars record.details ++
    ifNonempty record.remarks (fun remarks => line ("## Remarks\n" ++ remarks ++ "\n")) ++
    exampleBlock record ++
    nameList "Related" record.related (apiReference catalog) ++
    mentioningTopics catalog record.name

/-- The page of a guide. -/
def topicDetail (catalog : Catalog) (record : Record) (topic : TopicDetails) : String :=
  line ("# " ++ record.name ++ "\n") ++
    line "**Type:** topic" ++
    ifPresent record.categoryName? (fun category => line ("**Category:** " ++ category)) ++
    ifPresent (record.source.map SourceLocation.file) (fun file => line ("**Source:** " ++ file)) ++
    line "" ++
    line "## Overview" ++ ifPresent record.brief line ++ line "" ++
    line ("## Content\n\n" ++ topic.content ++ "\n") ++
    nameList "Referenced Functions" topic.functionReferences (apiReference catalog) ++
    nameList "Referenced Structs" topic.structReferences (apiReference catalog) ++
    nameList "Referenced Enums" topic.enumReferences (apiReference catalog) ++
    nameList "Related Topics" topic.topicReferences (fun name => line ("- " ++ name))

/-- The page of a record. -/
def detail (catalog : Catalog) (record : Record) : String :=
  match record.details with
  | .topic topic => topicDetail catalog record topic
  | _ => itemDetail catalog record

end ApiAtlas.Render
