import ApiAtlas.Lookup.Related
import ApiAtlas.Proofs.Catalog.Refinement

/-! # Related records in both directions

The names that a record lists are looked up one by one, while the records that list it are found by going through
all records. Both directions read the same relation, "a record of the catalog lists a name", so each of them is
brought to that relation and the symmetry of two different names follows. Self-references are why the names have to
differ: they show among the references and never among the records that refer back.
-/

namespace ApiAtlas.Catalog

/-- A record of the catalog with the first name lists the second one. -/
def Lists (catalog : Catalog) (name listed : String) : Prop :=
  ∃ record ∈ catalog.records, record.name = name ∧ listed ∈ record.related

/-- The relations of a name show a record with another name as found. -/
def ShowsFound (catalog : Catalog) (name other : String) : Prop :=
  ∃ relations record, catalog.relations? name = some relations ∧
    .found record ∈ relations.references ∧ record.name = other

/-- The relations of a name show a record with another name as referring to it. -/
def ShowsBack (catalog : Catalog) (name other : String) : Prop :=
  ∃ relations record, catalog.relations? name = some relations ∧
    record ∈ relations.referencedBy ∧ record.name = other

/-- What a listed name stands for: the record that has it, or the bare name if no record has it. -/
inductive StandsFor (catalog : Catalog) (name : String) : RelatedEntry → Prop
  | found {record : Record} (present : record ∈ catalog.records) (named : record.name = name) :
      StandsFor catalog name (.found record)
  | missing (absent : name ∉ catalog.records.map Record.name) : StandsFor catalog name (.missing name)

/-- The relations of a record, stated by the records of the catalog alone. -/
structure RelationsOf (catalog : Catalog) (record : Record) (relations : Relations) : Prop where
  /-- The references answer the listed names one by one. -/
  references : List.Forall₂ catalog.StandsFor record.related relations.references
  /-- Records refer back if they are others and list the name. -/
  mem_referencedBy : ∀ other, other ∈ relations.referencedBy ↔
    other ∈ catalog.records ∧ other.name ≠ record.name ∧ record.name ∈ other.related
  referencedBy_sublist : relations.referencedBy.Sublist catalog.records
  referencedBy_nodup : (relations.referencedBy.map Record.name).Nodup

/-- The relations in a catalog are whole and agree in both directions. -/
structure RelatesBothWays (catalog : Catalog) : Prop where
  /-- There are no relations exactly for a name that no record has. -/
  absent : ∀ name, catalog.relations? name = none ↔ name ∉ catalog.records.map Record.name
  present : ∀ record ∈ catalog.records,
    ∃ relations, catalog.relations? record.name = some relations ∧ catalog.RelationsOf record relations
  symmetric : ∀ left right, left ≠ right → (catalog.ShowsFound right left ↔ catalog.ShowsBack left right)

section Coherent

variable {catalog : Catalog} {added : List Record} (coherent : catalog.Coherent added)

include coherent

theorem Coherent.find?_eq_none_iff (name : String) :
    catalog.find? name = none ↔ name ∉ catalog.records.map Record.name := by
  rw [coherent.find?_eq_lastNamed, lastNamed_eq_none_iff, coherent.mem_names_iff]

theorem Coherent.standsFor_relatedEntry (name : String) :
    catalog.StandsFor name (catalog.relatedEntry name) := by
  unfold relatedEntry
  cases found : catalog.find? name with
  | none => exact .missing ((coherent.find?_eq_none_iff name).mp found)
  | some record =>
    obtain ⟨member, named⟩ := (coherent.find?_eq_some_iff name record).mp found
    exact .found member named

/-- A name is answered by a record exactly if that record is in the catalog under the name. -/
theorem Coherent.relatedEntry_eq_found_iff (name : String) (record : Record) :
    catalog.relatedEntry name = .found record ↔ record ∈ catalog.records ∧ record.name = name := by
  rw [← coherent.find?_eq_some_iff]
  unfold relatedEntry
  cases catalog.find? name with
  | none => simp
  | some other => simp

theorem Coherent.relations?_eq_some {record : Record} (member : record ∈ catalog.records) :
    catalog.relations? record.name = some
      { references := record.related.map catalog.relatedEntry
        referencedBy := catalog.records.filter fun other =>
          other.name != record.name && other.related.contains record.name } := by
  have found := (coherent.find?_eq_some_iff record.name record).mpr ⟨member, rfl⟩
  rw [relations?, found, Option.map_some]

theorem Coherent.relations?_eq_none_iff (name : String) :
    catalog.relations? name = none ↔ name ∉ catalog.records.map Record.name := by
  rw [relations?, Option.map_eq_none_iff, coherent.find?_eq_none_iff]

theorem Coherent.relationsOf {record : Record} (member : record ∈ catalog.records) :
    ∃ relations, catalog.relations? record.name = some relations ∧ catalog.RelationsOf record relations := by
  refine ⟨_, coherent.relations?_eq_some member, ?_, ?_, List.filter_sublist, ?_⟩
  · rw [List.forall₂_map_right_iff, List.forall₂_same]
    intro name _
    exact coherent.standsFor_relatedEntry name
  · intro other
    simp
  · exact List.Nodup.sublist (List.filter_sublist.map Record.name) coherent.names_nodup

/-- Shown as found is what the record lists and the catalog has. -/
theorem Coherent.showsFound_iff (name other : String) :
    catalog.ShowsFound name other ↔ catalog.Lists name other ∧ other ∈ catalog.records.map Record.name := by
  constructor
  · rintro ⟨relations, record, shown, listed, rfl⟩
    obtain ⟨owner, found, rfl⟩ := Option.map_eq_some_iff.mp shown
    obtain ⟨inside, rfl⟩ := (coherent.find?_eq_some_iff name owner).mp found
    obtain ⟨entry, wanted, answer⟩ := List.mem_map.mp listed
    obtain ⟨member, named⟩ := (coherent.relatedEntry_eq_found_iff entry record).mp answer
    rw [← named] at wanted
    exact ⟨⟨owner, inside, rfl, wanted⟩, List.mem_map_of_mem member⟩
  · rintro ⟨⟨owner, inside, rfl, wanted⟩, known⟩
    obtain ⟨record, member, rfl⟩ := List.mem_map.mp known
    refine ⟨_, record, coherent.relations?_eq_some inside, List.mem_map.mpr ⟨record.name, wanted, ?_⟩, rfl⟩
    exact (coherent.relatedEntry_eq_found_iff record.name record).mpr ⟨member, rfl⟩

/-- Shown as referring back are the other records that list a name of the catalog. -/
theorem Coherent.showsBack_iff (name other : String) :
    catalog.ShowsBack name other ↔
      catalog.Lists other name ∧ name ∈ catalog.records.map Record.name ∧ other ≠ name := by
  constructor
  · rintro ⟨relations, record, shown, listed, rfl⟩
    obtain ⟨owner, found, rfl⟩ := Option.map_eq_some_iff.mp shown
    obtain ⟨inside, rfl⟩ := (coherent.find?_eq_some_iff name owner).mp found
    simp only [List.mem_filter, Bool.and_eq_true, bne_iff_ne, List.contains_iff_mem] at listed
    obtain ⟨member, differs, wanted⟩ := listed
    exact ⟨⟨record, member, rfl, wanted⟩, List.mem_map_of_mem inside, differs⟩
  · rintro ⟨⟨record, member, rfl, wanted⟩, known, differs⟩
    obtain ⟨owner, inside, rfl⟩ := List.mem_map.mp known
    refine ⟨_, record, coherent.relations?_eq_some inside, ?_, rfl⟩
    simp [member, differs, wanted]

end Coherent

/-- After every history the relations of a name exist exactly if a record has the name, they are what the records
say, and of two different names one is shown as found where the other is shown as referring back. -/
theorem related_both_ways (history : List Operation) : (run history).RelatesBothWays := by
  have coherent := coherent_run history
  refine ⟨coherent.relations?_eq_none_iff, fun record member => coherent.relationsOf member, ?_⟩
  intro left right differ
  rw [coherent.showsFound_iff, coherent.showsBack_iff]
  constructor
  · rintro ⟨lists, known⟩
    exact ⟨lists, known, differ.symm⟩
  · rintro ⟨lists, known, -⟩
    exact ⟨lists, known⟩

end ApiAtlas.Catalog
