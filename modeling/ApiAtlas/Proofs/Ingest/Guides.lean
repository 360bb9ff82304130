import ApiAtlas.Ingest.Directory
import ApiAtlas.Proofs.Catalog.Refinement

/-! # Guides in a catalog

Guides are added to a catalog one after the other, each refined by what the catalog holds at that
moment. Refining looks at names and kinds only and changes neither, so a guide is refined as by the
records and the unrefined guides before it.
-/

namespace ApiAtlas

/-- The kind of the last record of a name is read off the names and the kinds. -/
theorem lastNamed_map_kind {first second : List Record}
    (alike : first.map (fun record => (record.name, record.kind)) =
      second.map fun record => (record.name, record.kind)) (name : String) :
    (lastNamed first name).map Record.kind = (lastNamed second name).map Record.kind := by
  have view (records : List Record) : (lastNamed records name).map Record.kind =
      ((records.map fun record => (record.name, record.kind)).reverse.find? (·.1 == name)).map Prod.snd := by
    rw [← List.map_reverse, List.find?_map, Option.map_map]
    rfl
  rw [view, view, alike]

namespace Guide

@[simp]
theorem refine_name (catalog : Catalog) (record : Record) : (refine catalog record).name = record.name := by
  unfold refine
  split <;> rfl

@[simp]
theorem refine_kind (catalog : Catalog) (record : Record) : (refine catalog record).kind = record.kind := by
  unfold refine
  split <;> simp_all [Record.kind, Details.kind]

/-- Catalogs with the same kinds under the same names refine alike. -/
theorem refine_congr {catalog other : Catalog}
    (alike : ∀ name, (catalog.find? name).map Record.kind = (other.find? name).map Record.kind)
    (record : Record) : refine catalog record = refine other record := by
  have enums : isEnumIn catalog = isEnumIn other := by
    funext name
    have view (catalog : Catalog) : isEnumIn catalog name =
        ((catalog.find? name).map Record.kind == some .enum) := by
      unfold isEnumIn
      split <;> simp_all
    rw [view, view, alike]
  unfold refine refineDetails
  rw [enums]

end Guide

namespace Ingest

/-- Guides, each refined by the records and the guides before it. -/
def refinedGuides (records guides : List Record) : List Record :=
  guides.mapIdx fun place guide => Guide.refine (Catalog.ofRecords (records ++ guides.take place)) guide

theorem refinedGuides_getElem? (records guides : List Record) (place : Nat) :
    (refinedGuides records guides)[place]? =
      guides[place]?.map (Guide.refine (Catalog.ofRecords (records ++ guides.take place))) := by
  rw [refinedGuides, List.getElem?_mapIdx]

/-- Refining changes neither the names nor the kinds. -/
theorem refinedGuides_map_name_kind (records guides : List Record) :
    (refinedGuides records guides).map (fun record => (record.name, record.kind)) =
      guides.map fun record => (record.name, record.kind) := by
  apply List.ext_getElem?
  intro place
  simp only [List.getElem?_map, refinedGuides_getElem?, Option.map_map]
  congr 1
  funext guide
  simp

theorem refinedGuides_map_name (records guides : List Record) :
    (refinedGuides records guides).map Record.name = guides.map Record.name := by
  have names := congrArg (List.map Prod.fst) (refinedGuides_map_name_kind records guides)
  rw [List.map_map, List.map_map] at names
  exact names

/-- A guide at the end is refined by all that comes before it and changes nothing else. -/
theorem refinedGuides_append_singleton (records guides : List Record) (guide : Record) :
    refinedGuides records (guides ++ [guide]) =
      refinedGuides records guides ++ [Guide.refine (Catalog.ofRecords (records ++ guides)) guide] := by
  rw [refinedGuides, List.mapIdx_concat, List.take_left, refinedGuides, List.append_left_inj,
    List.mapIdx_eq_mapIdx_iff]
  intro place before
  rw [List.take_append_of_le_length before.le]

/-- Adding guides one after the other, each refined by the catalog of that moment, adds the refined guides. -/
theorem coherent_addGuides (records guides : List Record) :
    (addGuides (Catalog.ofRecords records) guides).Coherent (records ++ refinedGuides records guides) := by
  induction guides using List.reverseRecOn with
  | nil => simpa [addGuides, refinedGuides] using Catalog.coherent_ofRecords records
  | append_singleton guides guide ih =>
    -- The catalog so far holds the guides as refined, but it has the same kinds under the same names.
    have alike : Guide.refine (addGuides (Catalog.ofRecords records) guides) guide =
        Guide.refine (Catalog.ofRecords (records ++ guides)) guide := by
      apply Guide.refine_congr
      intro name
      rw [ih.find?_eq_lastNamed, (Catalog.coherent_ofRecords _).find?_eq_lastNamed]
      apply lastNamed_map_kind
      rw [List.map_append, List.map_append, refinedGuides_map_name_kind]
    have next := ih.add (Guide.refine (Catalog.ofRecords (records ++ guides)) guide)
    rw [refinedGuides_append_singleton, ← List.append_assoc, addGuides, List.foldl_append]
    rw [← alike] at next ⊢
    exact next

end Ingest

/-- What a catalog holds of the records of headers and of guides: a guide under its own name, and the last
record under every other name. -/
structure Catalog.Joins (catalog : Catalog) (records guides : List Record) : Prop where
  /-- A guide is found as refined by what comes before it. -/
  guide : ∀ place guide, guides[place]? = some guide →
    catalog.find? guide.name = some (Guide.refine (ofRecords (records ++ guides.take place)) guide)
  record : ∀ name ∉ guides.map Record.name, catalog.find? name = lastNamed records name
  names : catalog.records.map Record.name = Names.firstOccurrences ((records ++ guides).map Record.name)

namespace Ingest

/-- Adding guides with different names to the catalog of the records joins them. -/
theorem joins_addGuides {records guides : List Record} (distinct : (guides.map Record.name).Nodup) :
    (addGuides (Catalog.ofRecords records) guides).Joins records guides where
  guide place guide present := by
    have refined : (refinedGuides records guides)[place]? =
        some (Guide.refine (Catalog.ofRecords (records ++ guides.take place)) guide) := by
      rw [refinedGuides_getElem?, present, Option.map_some]
    have last := lastNamed_of_mem (by rwa [refinedGuides_map_name]) (List.mem_of_getElem? refined)
    rw [Guide.refine_name] at last
    rw [(coherent_addGuides records guides).find?_eq_lastNamed, lastNamed_append, last, Option.some_or]
  record name absent := by
    rw [← refinedGuides_map_name records, ← lastNamed_eq_none_iff] at absent
    rw [(coherent_addGuides records guides).find?_eq_lastNamed, lastNamed_append, absent, Option.none_or]
  names := by
    rw [(coherent_addGuides records guides).records, ledger_map_name, List.map_append, refinedGuides_map_name,
      List.map_append]

end Ingest

end ApiAtlas
