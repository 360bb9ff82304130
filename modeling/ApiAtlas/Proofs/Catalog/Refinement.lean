import ApiAtlas.Proofs.Catalog.Coherence
import ApiAtlas.Proofs.Text.ByteOrder

/-! # A catalog as an ordered map

Seen from outside, a catalog is the ledger of its additions: the records, the look-up by name, the
listings by kind and by category, the list of categories and all counts are read off that one list.
Slots and indexes do not show. The statement covers every history of additions and clears.
-/

namespace ApiAtlas

/-- The numbers of a list at which a property holds, from left to right. -/
private theorem enumerates_range (records : List Record) (property : Record → Prop)
    [DecidablePred property] :
    Enumerates ((List.range records.length).filter fun slot => records[slot]?.any (property ·))
      (Held (fun slot => records[slot]?) property) := by
  refine ⟨List.pairwise_lt_range.filter _, fun slot => ?_⟩
  rw [List.mem_filter, List.mem_range, Option.any_eq_true]
  constructor
  · rintro ⟨_, record, present, has⟩
    exact ⟨record, present, of_decide_eq_true has⟩
  · rintro ⟨record, present, has⟩
    exact ⟨(List.getElem?_eq_some_iff.mp present).1, record, present, decide_eq_true has⟩

private theorem filterMap_range (records : List Record) (property : Record → Prop)
    [DecidablePred property] :
    ((List.range records.length).filter fun slot => records[slot]?.any (property ·)).filterMap
      (fun slot => records[slot]?) = records.filter (property ·) := by
  induction records using List.reverseRecOn with
  | nil => rfl
  | append_singleton records last ih =>
    have front : ∀ slot ∈ List.range records.length,
        (records ++ [last])[slot]? = records[slot]? := fun slot member =>
      List.getElem?_append_left (List.mem_range.mp member)
    have kept : (List.range records.length).filter (fun slot => (records ++ [last])[slot]?.any (property ·)) =
        (List.range records.length).filter (fun slot => records[slot]?.any (property ·)) :=
      List.filter_congr fun slot member => by rw [front slot member]
    have read : ((List.range records.length).filter fun slot => records[slot]?.any (property ·)).filterMap
        (fun slot => (records ++ [last])[slot]?) = records.filter (property ·) := by
      rw [← ih]
      exact List.filterMap_congr fun slot member => front slot (List.mem_filter.mp member).1
    rw [List.length_append, List.length_singleton, List.range_succ, List.filter_append,
      List.filterMap_append, kept, read, List.filter_append]
    by_cases has : property last
    · simp [has]
    · simp [has]

namespace Catalog

variable {catalog : Catalog} {added : List Record}

/-- Reading the numbers of the records with a property gives these records. -/
theorem recordsAt_eq_filter {slots : List Nat} {property : Record → Prop} [DecidablePred property]
    (listed : Enumerates slots (Held (fun slot => catalog.records[slot]?) property)) :
    catalog.recordsAt slots = catalog.records.filter (property ·) := by
  rw [listed.unique (enumerates_range catalog.records property)]
  exact filterMap_range catalog.records property

theorem length_recordsAt {slots : List Nat} {property : Record → Prop}
    (listed : Enumerates slots (Held (fun slot => catalog.records[slot]?) property)) :
    (catalog.recordsAt slots).length = slots.length := by
  rw [recordsAt, List.length_filterMap_eq_countP, List.countP_eq_length]
  intro slot member
  obtain ⟨record, present, _⟩ := (listed.mem_iff slot).mp member
  exact Option.isSome_iff_exists.mpr ⟨record, present⟩

theorem Coherent.find?_eq_some_iff (coherent : catalog.Coherent added) (name : String)
    (record : Record) :
    catalog.find? name = some record ↔ record ∈ catalog.records ∧ record.name = name := by
  rw [find?, Option.bind_eq_some_iff]
  constructor
  · rintro ⟨slot, place, present⟩
    have named := (coherent.positions name slot).mp place
    rw [List.getElem?_map, present, Option.map_some, Option.some_inj] at named
    exact ⟨List.mem_of_getElem? present, named⟩
  · rintro ⟨member, rfl⟩
    obtain ⟨slot, present⟩ := List.mem_iff_getElem?.mp member
    refine ⟨slot, (coherent.positions record.name slot).mpr ?_, present⟩
    rw [List.getElem?_map, present, Option.map_some]

theorem Coherent.find?_eq_lastNamed (coherent : catalog.Coherent added) (name : String) :
    catalog.find? name = lastNamed added name := by
  refine Option.ext fun record => ?_
  rw [coherent.find?_eq_some_iff, coherent.mem_records_iff]
  constructor
  · rintro ⟨last, rfl⟩
    exact last
  · intro last
    rw [lastNamed_name last]
    exact ⟨last, rfl⟩

theorem Coherent.ofKind_eq_filter (coherent : catalog.Coherent added) (kind : RecordKind) :
    catalog.ofKind kind = catalog.records.filter fun record => record.kind = kind :=
  recordsAt_eq_filter (coherent.files.kinds kind)

theorem Coherent.count_eq_length (coherent : catalog.Coherent added) (kind : RecordKind) :
    catalog.count kind = (catalog.ofKind kind).length :=
  (length_recordsAt (coherent.files.kinds kind)).symm

theorem Coherent.inCategory_eq_filter (coherent : catalog.Coherent added) (category : String) :
    catalog.inCategory category =
      catalog.records.filter fun record => record.categoryName? = some category :=
  recordsAt_eq_filter (coherent.files.categories category)

theorem Coherent.mem_categories_iff (coherent : catalog.Coherent added) (category : String) :
    category ∈ catalog.categories ↔ ∃ record ∈ catalog.records, record.categoryName? = some category := by
  have listed := coherent.files.categories category
  rw [categories, coherent.files.wellFormed.mem_names_iff, ← List.length_pos_iff_ne_nil,
    ← length_recordsAt listed, recordsAt_eq_filter listed, List.length_pos_iff_exists_mem]
  simp

end Catalog

theorem Record.categoryName?_eq_some_iff {record : Record} {category : String} :
    record.categoryName? = some category ↔ record.category = some category ∧ category ≠ "" := by
  simp [Record.categoryName?, Option.filter_eq_some_iff]

/-- Every record is of one of the four kinds. -/
theorem length_eq_sum_kinds (records : List Record) :
    (records.filter fun record => record.kind = .function).length +
      (records.filter fun record => record.kind = .struct).length +
      (records.filter fun record => record.kind = .enum).length +
      (records.filter fun record => record.kind = .topic).length = records.length := by
  induction records with
  | nil => rfl
  | cons record rest ih =>
    cases kind : record.kind <;> simp [kind] <;> omega

namespace Catalog

/-- What a catalog shows of a list of records with different names. -/
structure Presents (catalog : Catalog) (entries : List Record) : Prop where
  /-- The records are the entries, in their order. -/
  records : catalog.records = entries
  /-- Looking up a name finds the entry with that name. -/
  find? : ∀ name record, catalog.find? name = some record ↔ record ∈ entries ∧ record.name = name
  /-- Looking up a name that no entry has finds nothing. -/
  find?_none : ∀ name, catalog.find? name = none ↔ name ∉ entries.map Record.name
  size : catalog.size = entries.length
  total : catalog.stats.total = entries.length
  /-- The listing of a kind selects from the entries, and its count is the length of the listing. -/
  ofKind : ∀ kind, catalog.ofKind kind = entries.filter (fun record => record.kind = kind) ∧
    catalog.count kind = (entries.filter fun record => record.kind = kind).length
  /-- The counts of the four kinds are those of the statistics and add up. -/
  counts : catalog.stats.functions = catalog.count .function ∧
    catalog.stats.structs = catalog.count .struct ∧ catalog.stats.enums = catalog.count .enum ∧
    catalog.stats.topics = catalog.count .topic ∧
    catalog.count .function + catalog.count .struct + catalog.count .enum + catalog.count .topic =
      catalog.stats.total
  /-- The listing of a category selects from the entries; the empty text is no category. -/
  inCategory : ∀ category, catalog.inCategory category =
    if category = "" then [] else entries.filter fun record => record.category = some category
  inCategory_nodup : ∀ category, (catalog.inCategory category).Nodup
  /-- The categories are those of the entries, strictly ascending by their bytes. -/
  categories_ascending : catalog.categories.Pairwise fun left right => Text.bytes left < Text.bytes right
  mem_categories : ∀ category, category ∈ catalog.categories ↔
    category ≠ "" ∧ ∃ record ∈ entries, record.category = some category
  categoryCount : catalog.stats.categories = catalog.categories.length

/-- After every history of additions and clears a catalog presents the ledger of what was added since
the last clear. -/
theorem run_presents_ledger (history : List Operation) :
    (run history).Presents (ledger (additions history)) := by
  have coherent := coherent_run history
  have kinds := fun kind => coherent.ofKind_eq_filter kind
  rw [← coherent.records]
  refine {
    records := rfl
    find? := coherent.find?_eq_some_iff
    find?_none := ?_
    size := rfl
    total := rfl
    ofKind := fun kind => ⟨kinds kind, by rw [coherent.count_eq_length, kinds]⟩
    counts := ⟨rfl, rfl, rfl, rfl, ?_⟩
    inCategory := ?_
    inCategory_nodup := ?_
    categories_ascending := coherent.files.wellFormed.ascending.imp Text.bytes_lt_bytes
    mem_categories := ?_
    categoryCount := (List.length_map ..).symm }
  · intro name
    rw [Option.eq_none_iff_forall_ne_some, List.mem_map, not_exists]
    refine forall_congr' fun record => ?_
    rw [ne_eq, coherent.find?_eq_some_iff]
  · rw [coherent.count_eq_length, coherent.count_eq_length, coherent.count_eq_length,
      coherent.count_eq_length, kinds, kinds, kinds, kinds]
    exact length_eq_sum_kinds _
  · intro category
    rw [coherent.inCategory_eq_filter]
    by_cases blank : category = ""
    · simp [blank, Record.categoryName?_eq_some_iff]
    · simp [blank, Record.categoryName?_eq_some_iff]
  · intro category
    rw [coherent.inCategory_eq_filter]
    exact coherent.names_nodup.of_map.filter _
  · intro category
    rw [coherent.mem_categories_iff]
    simp only [Record.categoryName?_eq_some_iff]
    constructor
    · rintro ⟨record, member, filed, named⟩
      exact ⟨named, record, member, filed⟩
    · rintro ⟨named, record, member, filed⟩
      exact ⟨record, member, filed, named⟩

end Catalog

end ApiAtlas
