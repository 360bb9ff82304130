import ApiAtlas.Proofs.Ingest.Built

/-! # Telling structs from enums for good

Refining a guide moves the names of enums from one list of references to another one and loses nothing; done again
it changes nothing. Each guide of a build is refined by a catalog that later guides may still change. They can only
take a name away from the headers, so what a guide files under structs never turns out to be an enum, and what it
files under enums can only have become a guide.
-/

namespace ApiAtlas

/-- A catalog finds a record of a kind under a name. -/
def Catalog.Resolves (catalog : Catalog) (name : String) (kind : RecordKind) : Prop :=
  (catalog.find? name).map Record.kind = some kind

instance (catalog : Catalog) (name : String) (kind : RecordKind) : Decidable (catalog.Resolves name kind) :=
  inferInstanceAs (Decidable ((catalog.find? name).map Record.kind = some kind))

namespace Guide

variable {catalog : Catalog}

theorem isEnumIn_iff {name : String} : isEnumIn catalog name = true ↔ catalog.Resolves name .enum := by
  unfold isEnumIn Catalog.Resolves
  cases catalog.find? name <;> simp

/-- Details of a guide in which the names of enums have moved from the structs to the enums. -/
structure Reclassified (catalog : Catalog) (before after : TopicDetails) : Prop where
  structs : after.structReferences = before.structReferences.filter fun name => ¬catalog.Resolves name .enum
  /-- The moved names follow the enums that were there, each once and only if it was not among them. -/
  enums : ∃ moved, after.enumReferences = before.enumReferences ++ moved ∧
    Names.ListsFirst (before.structReferences.filter fun name =>
      catalog.Resolves name .enum ∧ name ∉ before.enumReferences) moved
  /-- Nothing else changes. -/
  others : after = { before with
    structReferences := after.structReferences, enumReferences := after.enumReferences }
  /-- No name is lost and none is new. -/
  mentions : ∀ name, name ∈ after.apiReferences ↔ name ∈ before.apiReferences

theorem structReferences_refineDetails (topic : TopicDetails) :
    (refineDetails catalog topic).structReferences =
      topic.structReferences.filter fun name => ¬catalog.Resolves name .enum := by
  apply List.filter_congr
  intro name _
  rw [Bool.eq_iff_iff, Bool.not_eq_true', Bool.eq_false_iff, ne_eq, isEnumIn_iff, decide_eq_true_eq]

theorem enumReferences_refineDetails (topic : TopicDetails) :
    (refineDetails catalog topic).enumReferences = topic.enumReferences ++
      Names.firstOccurrences (topic.structReferences.filter fun name =>
        catalog.Resolves name .enum ∧ name ∉ topic.enumReferences) := by
  have moved : (topic.structReferences.filter (isEnumIn catalog)).filter (fun name => name ∉ topic.enumReferences) =
      topic.structReferences.filter fun name => catalog.Resolves name .enum ∧ name ∉ topic.enumReferences := by
    rw [List.filter_filter]
    apply List.filter_congr
    intro name _
    rw [Bool.eq_iff_iff, Bool.and_eq_true, isEnumIn_iff, decide_eq_true_eq, decide_eq_true_eq, and_comm]
  rw [← moved, ← Names.foldl_insertNew]
  rfl

theorem mem_enumReferences_refineDetails {topic : TopicDetails} {name : String} :
    name ∈ (refineDetails catalog topic).enumReferences ↔
      name ∈ topic.enumReferences ∨ name ∈ topic.structReferences ∧ catalog.Resolves name .enum := by
  rw [enumReferences_refineDetails, List.mem_append, Names.mem_firstOccurrences, List.mem_filter, decide_eq_true_eq]
  tauto

theorem mem_apiReferences_refineDetails (topic : TopicDetails) (name : String) :
    name ∈ (refineDetails catalog topic).apiReferences ↔ name ∈ topic.apiReferences := by
  have functions : (refineDetails catalog topic).functionReferences = topic.functionReferences := rfl
  simp only [TopicDetails.apiReferences, List.mem_append, functions, structReferences_refineDetails,
    mem_enumReferences_refineDetails, List.mem_filter, decide_eq_true_eq]
  tauto

theorem reclassified_refineDetails (topic : TopicDetails) :
    Reclassified catalog topic (refineDetails catalog topic) where
  structs := structReferences_refineDetails topic
  enums := ⟨_, enumReferences_refineDetails topic, Names.listsFirst_firstOccurrences _⟩
  others := rfl
  mentions := mem_apiReferences_refineDetails topic

/-- After refining no struct is left to be moved. -/
theorem refineDetails_refineDetails (topic : TopicDetails) :
    refineDetails catalog (refineDetails catalog topic) = refineDetails catalog topic := by
  have nothing : (refineDetails catalog topic).structReferences.filter (isEnumIn catalog) = [] := by
    rw [structReferences_refineDetails, List.filter_filter, List.filter_eq_nil_iff]
    intro name _ moved
    rw [Bool.and_eq_true, isEnumIn_iff, decide_eq_true_eq] at moved
    exact moved.2 moved.1
  have everything : (refineDetails catalog topic).structReferences.filter (fun name => !isEnumIn catalog name) =
      (refineDetails catalog topic).structReferences := by
    rw [List.filter_eq_self]
    intro name member
    have kept := List.filter_eq_nil_iff.mp nothing name member
    simpa using kept
  rw [refineDetails, nothing, everything]
  rfl

theorem refine_of_topic {record : Record} {topic : TopicDetails} (guide : record.details = .topic topic) :
    refine catalog record = { record with details := .topic (refineDetails catalog topic) } := by
  rw [refine, guide]

theorem refine_of_not_topic {record : Record} (other : record.isTopic = false) : refine catalog record = record := by
  unfold refine
  split
  · rename_i topic guide
    simp [Record.isTopic, Record.kind, guide, Details.kind] at other
  · rfl

/-- A record after refining. -/
structure IsRefined (catalog : Catalog) (record refined : Record) : Prop where
  /-- A guide keeps everything but the two lists of types. -/
  guide : ∀ before, record.details = .topic before →
    ∃ after, refined = { record with details := .topic after } ∧ Reclassified catalog before after
  other : record.isTopic = false → refined = record
  again : refine catalog refined = refined

theorem isRefined_refine (catalog : Catalog) (record : Record) :
    IsRefined catalog record (refine catalog record) where
  guide before guide := ⟨_, refine_of_topic guide, reclassified_refineDetails before⟩
  other := refine_of_not_topic
  again := by
    cases guide : record.details with
    | topic topic =>
      rw [refine_of_topic guide, refine_of_topic rfl, refineDetails_refineDetails]
    | _ =>
      have other : record.isTopic = false := by simp [Record.isTopic, Record.kind, guide, Details.kind]
      rw [refine_of_not_topic other, refine_of_not_topic other]

end Guide

/-- No guide of a catalog takes an enum of it for a struct, and what it takes for an enum is one, or a guide that
goes by the name of one. -/
structure Catalog.TellsEnums (catalog : Catalog) : Prop where
  structs : ∀ record ∈ catalog.records, ∀ topic, record.details = .topic topic →
    ∀ name ∈ topic.structReferences, ¬catalog.Resolves name .enum
  enums : ∀ record ∈ catalog.records, ∀ topic, record.details = .topic topic →
    ∀ name ∈ topic.enumReferences, catalog.Resolves name .enum ∨ catalog.Resolves name .topic

section Resolves

variable {catalog : Catalog} {records guides : List Record} (coherent : catalog.Coherent (records ++ guides))
  (topics : ∀ guide ∈ guides, guide.kind = .topic)

include coherent topics

/-- With guides behind the records, an enum is what is one among the records and has not lost its name to a guide. -/
theorem Catalog.Coherent.resolves_enum_iff (name : String) :
    catalog.Resolves name .enum ↔
      name ∉ guides.map Record.name ∧ (lastNamed records name).map Record.kind = some .enum := by
  rw [Resolves, coherent.find?_eq_lastNamed, lastNamed_append, ← lastNamed_eq_none_iff]
  cases last : lastNamed guides name with
  | none => simp
  | some guide => simp [topics guide (mem_of_lastNamed last)]

theorem Catalog.Coherent.resolves_topic {name : String} (taken : name ∈ guides.map Record.name) :
    catalog.Resolves name .topic := by
  obtain ⟨guide, last⟩ := Option.isSome_iff_exists.mp (lastNamed_isSome_iff.mpr taken)
  rw [Resolves, coherent.find?_eq_lastNamed, lastNamed_append, last, Option.some_or, Option.map_some,
    topics guide (mem_of_lastNamed last)]

end Resolves

namespace Ingest.Parts

variable {order : List String} {records guides : List Record} (parts : Parts order records guides) (place : Nat)
  {name : String}

include parts

/-- The catalog that refines a guide has every enum of the final one. -/
theorem resolves_enum_of_final
    (final : (addGuides (Catalog.ofRecords records) guides).Resolves name .enum) :
    (Catalog.ofRecords (records ++ guides.take place)).Resolves name .enum := by
  have early : ∀ guide ∈ guides.take place, guide.kind = .topic := fun guide member =>
    parts.kind_of_mem_guides (List.mem_of_mem_take member)
  rw [(coherent_addGuides records guides).resolves_enum_iff fun _ => parts.kind_of_mem_refinedGuides,
    refinedGuides_map_name] at final
  rw [(Catalog.coherent_ofRecords _).resolves_enum_iff early]
  refine ⟨fun taken => final.1 ?_, final.2⟩
  exact (List.take_sublist place guides).map Record.name |>.subset taken

/-- An enum of the catalog that refines a guide stays one, unless a guide takes its name. -/
theorem resolves_final_of_enum
    (early : (Catalog.ofRecords (records ++ guides.take place)).Resolves name .enum) :
    (addGuides (Catalog.ofRecords records) guides).Resolves name .enum ∨
      (addGuides (Catalog.ofRecords records) guides).Resolves name .topic := by
  have before : ∀ guide ∈ guides.take place, guide.kind = .topic := fun guide member =>
    parts.kind_of_mem_guides (List.mem_of_mem_take member)
  have refined : ∀ guide ∈ refinedGuides records guides, guide.kind = .topic := fun _ =>
    parts.kind_of_mem_refinedGuides
  have coherent := coherent_addGuides records guides
  rw [(Catalog.coherent_ofRecords _).resolves_enum_iff before] at early
  by_cases taken : name ∈ (refinedGuides records guides).map Record.name
  · exact .inr (coherent.resolves_topic refined taken)
  · exact .inl ((coherent.resolves_enum_iff refined name).mpr ⟨taken, early.2⟩)

/-- The details of a guide in the built catalog are those of a text, refined on the way. -/
theorem exists_refineDetails {record : Record} {topic : TopicDetails} (guide : record.details = .topic topic)
    (member : record ∈ (addGuides (Catalog.ofRecords records) guides).records) :
    ∃ place before, before.enumReferences = [] ∧
      topic = Guide.refineDetails (Catalog.ofRecords (records ++ guides.take place)) before := by
  have isTopic : record.kind = .topic := by simp [Record.kind, guide, Details.kind]
  obtain ⟨place, original, listed, rfl⟩ := parts.exists_guide isTopic member
  obtain ⟨name, text, rfl⟩ := parts.guides original (List.mem_of_getElem? listed)
  refine ⟨place, _, ?_, (Details.topic.inj guide).symm⟩
  rfl

theorem tellsEnums : (addGuides (Catalog.ofRecords records) guides).TellsEnums where
  structs record member topic guide name filed final := by
    obtain ⟨place, before, -, rfl⟩ := parts.exists_refineDetails guide member
    rw [Guide.structReferences_refineDetails, List.mem_filter, decide_eq_true_eq] at filed
    exact filed.2 (parts.resolves_enum_of_final place final)
  enums record member topic guide name filed := by
    obtain ⟨place, before, empty, rfl⟩ := parts.exists_refineDetails guide member
    rw [Guide.mem_enumReferences_refineDetails, empty] at filed
    rcases filed with absent | ⟨-, early⟩
    · contradiction
    · exact parts.resolves_final_of_enum place early

end Ingest.Parts

/-- Refining a guide only moves the names of enums and is settled at once. In a built catalog it is settled for
good, whatever guides were added after the one that was refined. -/
theorem Guide.refining_settles :
    (∀ catalog record, Guide.IsRefined catalog record (Guide.refine catalog record)) ∧
      ∀ around headers catalog, Ingest.build around headers = .ok catalog → catalog.TellsEnums := by
  refine ⟨Guide.isRefined_refine, ?_⟩
  intro around headers catalog built
  obtain ⟨records, guides, parts, rfl⟩ := Ingest.parts_of_build built
  exact parts.tellsEnums

/-- Two enums, of which a guide that is read later takes one name, and a guide that mentions both. -/
def Ingest.contestedFiles : Surroundings :=
  ⟨⟨[(["work"], .directory), (["work", "include"], .directory),
    (["work", "include", "a.h"], .file "/**\n * @enum CF_Key\n */\n/**\n * @enum CF_Mode\n */\n".toUTF8),
    (["work", "topics"], .directory),
    (["work", "topics", "Basics.md"],
      .file "[K](../input/CF_Key.md) [M](../app/CF_Mode.md) [A](../app/CF_App.md)".toUTF8),
    (["work", "topics", "CF_Mode.md"], .file "Modes.".toUTF8)]⟩, []⟩

theorem Guide.refining_settles_contestedFiles :
    ∃ catalog, Ingest.build Ingest.contestedFiles "/work/include" = .ok catalog ∧ catalog.TellsEnums ∧
      ((catalog.find? "Basics").bind Record.topic?).map
        (fun topic => (topic.structReferences, topic.enumReferences)) =
          some (["CF_App"], ["CF_Key", "CF_Mode"]) ∧
      catalog.Resolves "CF_Key" .enum ∧ catalog.Resolves "CF_Mode" .topic := by
  have shown : (Ingest.build Ingest.contestedFiles "/work/include").toOption.map (fun catalog =>
      (((catalog.find? "Basics").bind Record.topic?).map
        (fun topic => (topic.structReferences, topic.enumReferences)),
        (catalog.find? "CF_Key").map Record.kind, (catalog.find? "CF_Mode").map Record.kind)) =
      some (some (["CF_App"], ["CF_Key", "CF_Mode"]), some .enum, some .topic) := by decide +kernel
  cases built : Ingest.build Ingest.contestedFiles "/work/include" with
  | error reason => simp [built, Except.toOption] at shown
  | ok catalog =>
    rw [built, Except.toOption, Option.map_some, Option.some_inj, Prod.mk.injEq, Prod.mk.injEq] at shown
    exact ⟨catalog, rfl, Guide.refining_settles.2 _ _ catalog built, shown⟩

end ApiAtlas
