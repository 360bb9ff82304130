import ApiAtlas.Guide.Category
import ApiAtlas.Guide.Link
import ApiAtlas.Guide.Section
import ApiAtlas.Names

/-! # Records of guides

The text of a guide gives one record, named after the file of the guide. The links to reference
pages tell which functions and types the guide mentions: names that begin with `cf_` are functions,
names that begin with a capital are types. Whether a type is a struct or an enum cannot be read off
a link, so all types are first taken for structs.
-/

namespace ApiAtlas.Guide

open Text Names

/-- Whether a linked page documents a function. -/
def isFunctionName (name : List Char) : Bool :=
  "cf_".toList.isPrefixOf name

/-- Whether a linked page documents a type. -/
def isTypeName (name : List Char) : Bool :=
  !isFunctionName name && (name.head?.any Char.isUpper)

/-- Distinct names among linked pages. -/
def distinctNames (pages : List (List Char)) : List String :=
  firstOccurrences (pages.map String.ofList)

/-- The brief of a guide: the lines of the first paragraph joined by spaces, without links. -/
def brief? (s : List Char) : Option String :=
  let text := withoutLinks ([' '].intercalate (paragraph s))
  if text.isEmpty then none else some (String.ofList text)

/-- The details of a guide. The place in the reading order is not part of its text. -/
def details (content : String) : TopicDetails :=
  let s := content.toList
  let pages := linkedPages referenceTarget s
  { content := content
    sections := sections s
    functionReferences := distinctNames (pages.filter isFunctionName)
    structReferences := distinctNames (pages.filter isTypeName)
    enumReferences := []
    topicReferences := distinctNames (linkedPages guideTarget s)
    readingOrder := none }

/-- The record of a guide. -/
def record (name : String) (content : String) : Record :=
  { Record.ofDetails name (.topic (details content)) with
    category := some (category name)
    brief := brief? content.toList
    source := some ⟨name ++ ".md", none⟩ }

end ApiAtlas.Guide
