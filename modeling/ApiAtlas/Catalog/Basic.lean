import ApiAtlas.Catalog.ReferenceGraph
import ApiAtlas.Catalog.Slots
import ApiAtlas.StableSort

/-! # The catalog

A catalog holds records by name. A record is added at the end, or replaces the record of the same
name where that one stands: the last one added under a name counts, and the place of the first is
kept. Numbers, kinds, categories and references are kept up to date with every change.
-/

namespace ApiAtlas

/-- Counts of a catalog. -/
structure CatalogStats where
  total : Nat
  functions : Nat
  structs : Nat
  enums : Nat
  topics : Nat
  categories : Nat
deriving DecidableEq, Repr

/-- Records by name, with indexes over them. -/
structure Catalog where
  records : List Record
  positions : NameIndex
  byKind : KindIndex
  byCategory : CategoryIndex
  references : ReferenceGraph
deriving DecidableEq, Repr

namespace Catalog

/-- The catalog without records. -/
def empty : Catalog := ⟨[], [], .empty, [], .empty⟩

instance : Inhabited Catalog := ⟨empty⟩

/-- The number of the record with a name. -/
def slot? (catalog : Catalog) (name : String) : Option Nat :=
  NameIndex.slot? name catalog.positions

/-- The record with a name. -/
def find? (catalog : Catalog) (name : String) : Option Record :=
  (catalog.slot? name).bind fun slot => catalog.records[slot]?

/-- Enter a record with its number into the indexes. -/
def link (catalog : Catalog) (slot : Nat) (record : Record) : Catalog :=
  { catalog with
    byKind := catalog.byKind.modify (insertSlot slot) record.kind
    byCategory := match record.categoryName? with
      | some category => CategoryIndex.insert category slot catalog.byCategory
      | none => catalog.byCategory
    references := catalog.references.recordTopic record }

/-- Take a record with its number out of the indexes. -/
def unlink (catalog : Catalog) (slot : Nat) (record : Record) : Catalog :=
  { catalog with
    byKind := catalog.byKind.modify (removeSlot slot) record.kind
    byCategory := match record.categoryName? with
      | some category => CategoryIndex.remove category slot catalog.byCategory
      | none => catalog.byCategory
    references :=
      if record.isTopic then catalog.references.forgetTopic record.name else catalog.references }

/-- Add a record, or replace the one with its name. -/
def add (catalog : Catalog) (record : Record) : Catalog :=
  match catalog.slot? record.name with
  | some slot =>
    let cleared := match catalog.records[slot]? with
      | some previous => catalog.unlink slot previous
      | none => catalog
    { cleared with records := catalog.records.set slot record }.link slot record
  | none =>
    let slot := catalog.records.length
    { catalog with
      records := catalog.records ++ [record]
      positions := NameIndex.insert record.name slot catalog.positions }.link slot record

/-- Add records one after the other. -/
def addAll (catalog : Catalog) (records : List Record) : Catalog :=
  records.foldl add catalog

/-- Drop every record and all that is derived from them. -/
def clear (catalog : Catalog) : Catalog :=
  { catalog with
    records := []
    positions := []
    byKind := .empty
    byCategory := []
    references := .empty }

/-- The catalog of a list of records. -/
def ofRecords (records : List Record) : Catalog :=
  empty.addAll records

/-- Number of records. -/
def size (catalog : Catalog) : Nat := catalog.records.length

/-- The records with the given numbers. -/
def recordsAt (catalog : Catalog) (slots : List Nat) : List Record :=
  slots.filterMap fun slot => catalog.records[slot]?

/-- The records of a kind. -/
def ofKind (catalog : Catalog) (kind : RecordKind) : List Record :=
  catalog.recordsAt (catalog.byKind.slots kind)

/-- Number of records of a kind. -/
def count (catalog : Catalog) (kind : RecordKind) : Nat :=
  (catalog.byKind.slots kind).length

/-- The categories in ascending order. -/
def categories (catalog : Catalog) : List String :=
  CategoryIndex.names catalog.byCategory

/-- The records of a category. -/
def inCategory (catalog : Catalog) (category : String) : List Record :=
  catalog.recordsAt (CategoryIndex.slots category catalog.byCategory)

/-- The counts of a catalog. -/
def stats (catalog : Catalog) : CatalogStats where
  total := catalog.size
  functions := catalog.count .function
  structs := catalog.count .struct
  enums := catalog.count .enum
  topics := catalog.count .topic
  categories := catalog.byCategory.length

/-- Guides with a place in the reading order come first, by their places. -/
def readsBefore (left right : Record) : Bool :=
  match left.readingOrder?, right.readingOrder? with
  | some a, some b => a ≤ b
  | some _, none => true
  | none, some _ => false
  | none, none => true

/-- The guides in reading order; guides without a place come last, as they stand. -/
def topicsInOrder (catalog : Catalog) : List Record :=
  stableSort readsBefore (catalog.ofKind .topic)

/-- The guides that mention a name. -/
def topicsFor (catalog : Catalog) (api : String) : List Record :=
  ((catalog.references.topicNames api).filterMap catalog.find?).filter Record.isTopic

end Catalog

end ApiAtlas
