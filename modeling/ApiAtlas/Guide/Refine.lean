import ApiAtlas.Catalog.Basic

/-! # Telling structs from enums

A link does not say whether a type is a struct or an enum, but a catalog does. Refining a guide
moves the names of enums from its struct references to the end of its enum references.
-/

namespace ApiAtlas.Guide

/-- Whether a catalog has an enum with a name. -/
def isEnumIn (catalog : Catalog) (name : String) : Bool :=
  match catalog.find? name with
  | some record => record.kind == .enum
  | none => false

/-- Guide details in which enums known to the catalog are no longer taken for structs. -/
def refineDetails (catalog : Catalog) (topic : TopicDetails) : TopicDetails :=
  { topic with
    structReferences := topic.structReferences.filter fun name => !isEnumIn catalog name
    enumReferences :=
      (topic.structReferences.filter (isEnumIn catalog)).foldl Names.insertNew
        topic.enumReferences }

/-- Refine the references of a guide. Other records stay as they are. -/
def refine (catalog : Catalog) (record : Record) : Record :=
  match record.details with
  | .topic topic => { record with details := .topic (refineDetails catalog topic) }
  | _ => record

end ApiAtlas.Guide
