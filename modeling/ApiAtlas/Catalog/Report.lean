import ApiAtlas.Catalog.Basic
import ApiAtlas.Json.Basic

/-! # Reports on a catalog

The counts of a catalog as Json and as a one-line description of what is published.
-/

namespace ApiAtlas

namespace CatalogStats

/-- The counts under their names, in their usual order. -/
def entries (stats : CatalogStats) : List (String × Nat) :=
  [("total", stats.total), ("functions", stats.functions), ("structs", stats.structs),
    ("enums", stats.enums), ("topics", stats.topics), ("categories", stats.categories)]

/-- The counts as an object, in their usual order. -/
def toJson (stats : CatalogStats) : Json :=
  .obj (stats.entries.map fun (name, count) => (name, .nat count))

/-- The counts on one line. -/
def describe (stats : CatalogStats) : String :=
  "IndexStats \x7b " ++
    ", ".intercalate (stats.entries.map fun (name, count) => name ++ ": " ++ toString count) ++
    " \x7d"

end CatalogStats

/-- A line on what is published at the moment. -/
def describePublished (published : Option Catalog) : String :=
  "DocState \x7b stats: " ++
    (match published with
      | some catalog => "Some(" ++ catalog.stats.describe ++ ")"
      | none => "None") ++
    " \x7d"

end ApiAtlas
