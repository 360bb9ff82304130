import ApiAtlas.Catalog.Basic
import ApiAtlas.Search.Score

/-! # Searching a catalog

A query has a text, filters and a limit. Records that pass the filters and match the text are
ranked by falling score, with equal scores in the order of the catalog, and the first ones are
kept. Without keywords nothing is ranked and the order is that of the catalog.
-/

namespace ApiAtlas

/-- The number of results when no limit is given. -/
def defaultLimit : Nat := 20

/-- A search over a catalog. The category is compared as it is written. -/
structure SearchQuery where
  text : Option String
  kind : Option RecordKind
  category : Option String
  limit : Nat
deriving DecidableEq, Repr

namespace SearchQuery

/-- The records of a catalog in its order. -/
def browse : SearchQuery := ⟨none, none, none, defaultLimit⟩

/-- A search for a text. -/
def ofText (text : String) : SearchQuery := { browse with text := some text }

/-- The text, if it has keywords. -/
def keywordText? (query : SearchQuery) : Option String :=
  query.text.filter fun text => !Search.isBlankQuery text

/-- Whether a record passes the filters. -/
def admits (query : SearchQuery) (record : Record) : Bool :=
  (query.kind.all fun kind => record.kind == kind) &&
    (query.category.all fun category => record.category == some category)

end SearchQuery

namespace Catalog

/-- Records with falling scores. -/
def rank (scored : List (UInt32 × Record)) : List Record :=
  (stableSort (fun left right : UInt32 × Record => right.1 ≤ left.1) scored).map Prod.snd

/-- The results of a query. -/
def search (catalog : Catalog) (query : SearchQuery) : List Record :=
  let admitted := catalog.records.filter query.admits
  let results := match query.keywordText? with
    | some text =>
      rank ((admitted.filter (Search.isMatch text)).map fun record =>
        (Search.score text record, record))
    | none => admitted
  results.take query.limit

end Catalog

end ApiAtlas
