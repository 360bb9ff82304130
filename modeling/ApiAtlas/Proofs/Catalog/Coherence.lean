import ApiAtlas.Proofs.Catalog.Graph
import ApiAtlas.Proofs.Catalog.Ledger
import ApiAtlas.Proofs.Catalog.Slots

/-! # Coherence of a catalog

A catalog is coherent with the records added to it if its records are their ledger, every name has
the number of its record, and the indexes file exactly these records. The indexes are described
relative to a view that may have gaps, so that replacing a record is taking the old one out and
putting the new one in. One addition keeps a catalog coherent, and therefore every history does.
-/

namespace ApiAtlas

/-- The numbers under which a view has a record with a property. -/
def Held (view : Nat → Option Record) (property : Record → Prop) (slot : Nat) : Prop :=
  ∃ record, view slot = some record ∧ property record

theorem held_update_some {view : Nat → Option Record} {property : Record → Prop} {slot other : Nat}
    {record : Record} :
    Held (Function.update view slot (some record)) property other ↔
      (other = slot ∧ property record) ∨ (other ≠ slot ∧ Held view property other) := by
  by_cases same : other = slot
  · subst same
    simp [Held]
  · simp [Held, same]

theorem held_update_none {view : Nat → Option Record} {property : Record → Prop} {slot other : Nat} :
    Held (Function.update view slot none) property other ↔ other ≠ slot ∧ Held view property other := by
  by_cases same : other = slot
  · subst same
    simp [Held]
  · simp [Held, same]

theorem Held.ne_of_free {view : Nat → Option Record} {property : Record → Prop} {slot other : Nat}
    (held : Held view property other) (free : view slot = none) : other ≠ slot := by
  rintro rfl
  obtain ⟨record, present, _⟩ := held
  rw [free] at present
  contradiction

namespace Enumerates

variable {slots : List Nat} {view : Nat → Option Record} {property : Record → Prop} {slot : Nat}
  {record : Record}

/-- A record with the property is entered where nothing stood. -/
theorem place (listed : Enumerates slots (Held view property)) (free : view slot = none)
    (has : property record) :
    Enumerates (ApiAtlas.insertSlot slot slots)
      (Held (Function.update view slot (some record)) property) := by
  apply listed.insertSlot
  intro other
  rw [held_update_some]
  constructor
  · rintro (⟨same, _⟩ | ⟨_, held⟩)
    · exact Or.inl same
    · exact Or.inr held
  · rintro (same | held)
    · exact Or.inl ⟨same, has⟩
    · exact Or.inr ⟨held.ne_of_free free, held⟩

theorem place_other (listed : Enumerates slots (Held view property)) (free : view slot = none)
    (lacks : ¬property record) :
    Enumerates slots (Held (Function.update view slot (some record)) property) := by
  apply listed.congr
  intro other
  rw [held_update_some]
  constructor
  · exact fun held => Or.inr ⟨held.ne_of_free free, held⟩
  · rintro (⟨_, has⟩ | ⟨_, held⟩)
    · exact (lacks has).elim
    · exact held

/-- A record with the property is taken out. -/
theorem erase (listed : Enumerates slots (Held view property)) :
    Enumerates (ApiAtlas.removeSlot slot slots) (Held (Function.update view slot none) property) :=
  listed.removeSlot fun _ => held_update_none

theorem erase_other (listed : Enumerates slots (Held view property))
    (present : view slot = some record) (lacks : ¬property record) :
    Enumerates slots (Held (Function.update view slot none) property) := by
  apply listed.congr
  intro other
  rw [held_update_none]
  constructor
  · intro held
    refine ⟨?_, held⟩
    rintro rfl
    obtain ⟨found, stands, has⟩ := held
    rw [present] at stands
    cases stands
    exact lacks has
  · exact And.right

end Enumerates

theorem Record.apiReferences_of_not_topic {record : Record} (other : record.isTopic = false) :
    record.apiReferences = [] := by
  unfold Record.isTopic Record.kind at other
  unfold Record.apiReferences
  cases details : record.details with
  | topic topic => simp [details, Details.kind] at other
  | _ => rfl

namespace Catalog

/-- The indexes of a catalog file the records of a view, and its graph tracks the linked records. -/
structure Files (catalog : Catalog) (view : Nat → Option Record) (linked : List Record) : Prop where
  kinds : ∀ kind, Enumerates (catalog.byKind.slots kind) (Held view fun record => record.kind = kind)
  wellFormed : CategoryIndex.WellFormed catalog.byCategory
  categories : ∀ category, Enumerates (CategoryIndex.slots category catalog.byCategory)
    (Held view fun record => record.categoryName? = some category)
  references : catalog.references.Tracks linked

theorem files_empty : Files empty (fun _ => none) [] where
  kinds kind := by
    refine ⟨?_, fun slot => ?_⟩
    · cases kind <;> exact .nil
    · cases kind <;> simp [empty, KindIndex.empty, KindIndex.slots, Held]
  wellFormed := CategoryIndex.wellFormed_nil
  categories category := ⟨.nil, fun slot => by simp [empty, CategoryIndex.slots, Held]⟩
  references := ReferenceGraph.tracks_empty

variable {catalog : Catalog} {view : Nat → Option Record} {linked : List Record} {slot : Nat}
  {record : Record}

/-- Linking a record enters it under its number, its kind, its category and what it mentions. -/
theorem Files.link (files : catalog.Files view linked) (free : view slot = none)
    (fresh : record.name ∉ linked.map Record.name) :
    (catalog.link slot record).Files (Function.update view slot (some record)) (linked ++ [record]) where
  kinds kind := by
    have listed := files.kinds kind
    simp only [Catalog.link, KindIndex.slots_modify]
    by_cases same : kind = record.kind
    · rw [if_pos same]
      exact listed.place free same.symm
    · rw [if_neg same]
      exact listed.place_other free (Ne.symm same)
  wellFormed := by
    cases filed : record.categoryName? with
    | none => simpa only [Catalog.link, filed] using files.wellFormed
    | some category => simpa only [Catalog.link, filed] using files.wellFormed.insert category slot
  categories other := by
    have listed := files.categories other
    cases filed : record.categoryName? with
    | none =>
      simp only [Catalog.link, filed]
      exact listed.place_other free (by simp [filed])
    | some category =>
      simp only [Catalog.link, filed]
      rw [files.wellFormed.slots_insert]
      by_cases same : other = category
      · rw [if_pos same]
        exact listed.place free (by rw [filed, same])
      · rw [if_neg same]
        refine listed.place_other free ?_
        simpa [filed] using Ne.symm same
  references := files.references.recordTopic fresh

/-- Unlinking a record takes it out of everything it was entered under. -/
theorem Files.unlink (files : catalog.Files view linked) (present : view slot = some record)
    (only : ∀ other ∈ linked, other.name = record.name → other = record) :
    (catalog.unlink slot record).Files (Function.update view slot none)
      (linked.filter fun other => other.name ≠ record.name) where
  kinds kind := by
    have listed := files.kinds kind
    simp only [Catalog.unlink, KindIndex.slots_modify]
    by_cases same : kind = record.kind
    · rw [if_pos same]
      exact listed.erase
    · rw [if_neg same]
      exact listed.erase_other present (Ne.symm same)
  wellFormed := by
    cases filed : record.categoryName? with
    | none => simpa only [Catalog.unlink, filed] using files.wellFormed
    | some category => simpa only [Catalog.unlink, filed] using files.wellFormed.remove category slot
  categories other := by
    have listed := files.categories other
    cases filed : record.categoryName? with
    | none =>
      simp only [Catalog.unlink, filed]
      exact listed.erase_other present (by simp [filed])
    | some category =>
      simp only [Catalog.unlink, filed]
      rw [files.wellFormed.slots_remove]
      by_cases same : other = category
      · rw [if_pos same]
        exact listed.erase
      · rw [if_neg same]
        refine listed.erase_other present ?_
        simpa [filed] using Ne.symm same
  references := by
    cases topic : record.isTopic with
    | true => simpa only [Catalog.unlink, topic, if_true] using files.references.forgetTopic record.name
    | false =>
      have silent : ∀ other ∈ linked, other.name = record.name → other.apiReferences = [] := by
        intro other member same
        rw [only other member same]
        exact Record.apiReferences_of_not_topic topic
      simpa [Catalog.unlink, topic] using files.references.drop silent

/-- What a catalog holds after the given additions. -/
structure Coherent (catalog : Catalog) (added : List Record) : Prop where
  records : catalog.records = ledger added
  positions : ∀ name slot,
    catalog.slot? name = some slot ↔ (catalog.records.map Record.name)[slot]? = some name
  files : catalog.Files (fun slot => catalog.records[slot]?) (recency added)

theorem coherent_empty : Coherent empty [] where
  records := rfl
  positions name slot := by simp [empty, slot?, NameIndex.slot?]
  files := files_empty

variable {added : List Record}

theorem Coherent.names_nodup (coherent : catalog.Coherent added) :
    (catalog.records.map Record.name).Nodup := by
  rw [coherent.records]
  exact ledger_names_nodup added

theorem Coherent.mem_records_iff (coherent : catalog.Coherent added) (record : Record) :
    record ∈ catalog.records ↔ lastNamed added record.name = some record := by
  rw [coherent.records]
  exact mem_ledger_iff

theorem Coherent.mem_names_iff (coherent : catalog.Coherent added) (name : String) :
    name ∈ catalog.records.map Record.name ↔ name ∈ added.map Record.name := by
  rw [coherent.records, ledger_map_name, Names.mem_firstOccurrences]

/-- A name without a number was never added. -/
theorem Coherent.fresh_of_slot?_eq_none (coherent : catalog.Coherent added) {name : String}
    (unknown : catalog.slot? name = none) : name ∉ added.map Record.name := by
  rw [← coherent.mem_names_iff]
  intro member
  obtain ⟨slot, stands⟩ := List.mem_iff_getElem?.mp member
  rw [(coherent.positions name slot).mpr stands] at unknown
  contradiction

/-- What a record added last makes of the places of a list. -/
theorem getElem?_append_singleton {α : Type} (items : List α) (last : α) :
    (fun slot => (items ++ [last])[slot]?) =
      Function.update (fun slot => items[slot]?) items.length (some last) := by
  funext slot
  rcases lt_trichotomy slot items.length with before | rfl | after
  · rw [Function.update_of_ne before.ne, List.getElem?_append_left before]
  · simp
  · rw [Function.update_of_ne after.ne', List.getElem?_eq_none after.le, List.getElem?_eq_none]
    rw [List.length_append, List.length_singleton]
    exact after

theorem getElem?_set_of_lt {α : Type} {items : List α} {slot : Nat} (bound : slot < items.length)
    (item : α) :
    (fun other => (items.set slot item)[other]?) =
      Function.update (fun other => items[other]?) slot (some item) := by
  funext other
  by_cases same : other = slot
  · subst same
    simp [bound]
  · rw [Function.update_of_ne same, List.getElem?_set_ne (Ne.symm same)]

/-- The indexes do not depend on how the records are stored. -/
theorem Files.withRecords (files : catalog.Files view linked) (records : List Record)
    (positions : NameIndex) : Files { catalog with records, positions } view linked :=
  ⟨files.kinds, files.wellFormed, files.categories, files.references⟩

theorem name_mem_of_mem_recency (member : record ∈ recency added) :
    record.name ∈ added.map Record.name :=
  lastNamed_isSome_iff.mp (by simp [mem_recency_iff.mp member])

/-- A record with a new name is numbered and linked after all others. -/
theorem Coherent.add_of_fresh (coherent : catalog.Coherent added)
    (unknown : catalog.slot? record.name = none) :
    (catalog.add record).Coherent (added ++ [record]) := by
  have fresh := coherent.fresh_of_slot?_eq_none unknown
  have kept : (recency added).filter (fun other => other.name ≠ record.name) = recency added := by
    apply List.filter_eq_self.mpr
    intro other member
    apply decide_eq_true
    exact fun same => fresh (same ▸ name_mem_of_mem_recency member)
  have absent : record.name ∉ (recency added).map Record.name := by
    intro member
    obtain ⟨other, listed, same⟩ := List.mem_map.mp member
    exact fresh (same ▸ name_mem_of_mem_recency listed)
  simp only [add, unknown]
  refine ⟨?_, ?_, ?_⟩
  · change catalog.records ++ [record] = _
    rw [coherent.records, ledger_append_of_fresh fresh]
  · intro name slot
    change NameIndex.slot? name (NameIndex.insert record.name catalog.records.length catalog.positions) =
      some slot ↔ ((catalog.records ++ [record]).map Record.name)[slot]? = some name
    have stands := congrFun (getElem?_append_singleton (catalog.records.map Record.name) record.name) slot
    rw [NameIndex.slot?_insert, List.map_append, List.map_singleton, stands, List.length_map,
      Function.update_apply]
    by_cases same : name = record.name
    · have unlisted : (catalog.records.map Record.name)[slot]? ≠ some name := fun listed =>
        fresh ((coherent.mem_names_iff _).mp (same ▸ List.mem_of_getElem? listed))
      rw [if_pos same, Option.some_inj]
      split_ifs with last
      · simp [same, last]
      · exact iff_of_false (Ne.symm last) unlisted
    · have old := coherent.positions name slot
      change NameIndex.slot? name catalog.positions = some slot ↔ _ at old
      rw [if_neg same, old]
      split_ifs with last
      · rw [List.getElem?_eq_none (by rw [List.length_map, last])]
        simp [Ne.symm same]
      · rfl
  · change Files _ (fun slot => (catalog.records ++ [record])[slot]?) _
    rw [getElem?_append_singleton, recency_append_singleton, kept]
    exact (coherent.files.withRecords _ _).link (List.getElem?_eq_none le_rfl) absent

/-- A record with a known name takes the place of the one it replaces, in every index. -/
theorem Coherent.add_of_known (coherent : catalog.Coherent added)
    (known : catalog.slot? record.name = some slot) :
    (catalog.add record).Coherent (added ++ [record]) := by
  have named := (coherent.positions record.name slot).mp known
  obtain ⟨previous, present, same⟩ : ∃ previous, catalog.records[slot]? = some previous ∧
      previous.name = record.name := by simpa using named
  have bound : slot < catalog.records.length := (List.getElem?_eq_some_iff.mp present).1
  have only : ∀ other ∈ recency added, other.name = previous.name → other = previous := by
    intro other member equal
    have last := (coherent.mem_records_iff previous).mp (List.mem_of_getElem? present)
    rw [← equal, mem_recency_iff.mp member] at last
    exact Option.some_inj.mp last
  have names : (catalog.records.set slot record).map Record.name = catalog.records.map Record.name := by
    obtain ⟨inside, stands⟩ := List.getElem?_eq_some_iff.mp named
    rw [List.map_set, ← stands]
    exact List.set_getElem_self inside
  simp only [add, known, present]
  refine ⟨?_, ?_, ?_⟩
  · change catalog.records.set slot record = _
    rw [coherent.records] at named ⊢
    rw [ledger_append_of_known named]
  · intro name other
    change catalog.slot? name = some other ↔ ((catalog.records.set slot record).map Record.name)[other]? = _
    rw [names]
    exact coherent.positions name other
  · change Files _ (fun other => (catalog.records.set slot record)[other]?) _
    have unlinked := (coherent.files.unlink present only).withRecords (catalog.records.set slot record)
      catalog.positions
    rw [same] at unlinked
    rw [getElem?_set_of_lt bound, recency_append_singleton]
    have absent : record.name ∉
        ((recency added).filter fun other => other.name ≠ record.name).map Record.name := by
      intro member
      obtain ⟨other, listed, equal⟩ := List.mem_map.mp member
      exact name_ne_of_mem_filter listed equal
    have free : Function.update (fun other => catalog.records[other]?) slot none slot = none :=
      Function.update_self ..
    have relinked := unlinked.link free absent
    rwa [Function.update_idem] at relinked

/-- One addition keeps a catalog coherent. -/
theorem Coherent.add (coherent : catalog.Coherent added) (record : Record) :
    (catalog.add record).Coherent (added ++ [record]) := by
  cases place : catalog.slot? record.name with
  | none => exact coherent.add_of_fresh place
  | some slot => exact coherent.add_of_known place

theorem Coherent.addAll (coherent : catalog.Coherent added) (records : List Record) :
    (catalog.addAll records).Coherent (added ++ records) := by
  induction records generalizing catalog added with
  | nil => simpa [Catalog.addAll] using coherent
  | cons record rest ih => simpa [Catalog.addAll] using ih (coherent.add record)

theorem coherent_ofRecords (records : List Record) : (ofRecords records).Coherent records := by
  simpa [ofRecords] using coherent_empty.addAll records

/-- Every history leads to a catalog that is coherent with what was added since the last clear. -/
theorem coherent_run (history : List Operation) : (run history).Coherent (additions history) := by
  induction history using List.reverseRecOn with
  | nil => exact coherent_empty
  | append_singleton history operation ih =>
    rw [run, List.foldl_append]
    cases operation with
    | add record =>
      rw [additions_append_of_not_clear _ _ rfl]
      exact ih.add record
    | extend records =>
      rw [additions_append_of_not_clear _ _ rfl]
      exact ih.addAll records
    | clear =>
      rw [additions_append_clear]
      exact coherent_empty

end Catalog

end ApiAtlas
