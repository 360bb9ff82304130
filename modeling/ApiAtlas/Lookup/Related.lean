import ApiAtlas.Catalog.Basic

/-! # Related records

Records name the records that they are related to. The relations of a record are the names it lists
itself, found or not, and the other records that list it.
-/

namespace ApiAtlas

/-- A name that a record lists as related: the record it belongs to, or the name if there is
none. -/
inductive RelatedEntry where
  | found (record : Record)
  | missing (name : String)
deriving DecidableEq, Repr

/-- The relations of a record in both directions. -/
structure Relations where
  references : List RelatedEntry
  referencedBy : List Record
deriving DecidableEq, Repr

/-- A record without relations. -/
def Relations.isEmpty (relations : Relations) : Bool :=
  relations.references.isEmpty && relations.referencedBy.isEmpty

namespace Catalog

/-- What a listed name stands for. -/
def relatedEntry (catalog : Catalog) (name : String) : RelatedEntry :=
  match catalog.find? name with
  | some record => .found record
  | none => .missing name

/-- The relations of the record with a name. -/
def relations? (catalog : Catalog) (name : String) : Option Relations :=
  (catalog.find? name).map fun record =>
    { references := record.related.map catalog.relatedEntry
      referencedBy := catalog.records.filter fun other =>
        other.name != name && other.related.contains name }

end Catalog

end ApiAtlas
