import ApiAtlas.Proofs.Ingest.Guides

/-! # The guides of a built catalog

Headers document functions, structs and enums, never guides. So the guides of a built catalog are those that were
read from files of guides, each as refined when it was added, and their places in the reading order are the ones
that the page for it gives.
-/

namespace ApiAtlas

/-- A comment documents a function, a struct or an enum. -/
theorem Header.kind_of_subject? {tags : List Header.Tag} {code : List Char} {name : String} {details : Details}
    (documented : Header.subject? tags code = some (name, details)) : details.kind ≠ .topic := by
  unfold Header.subject? at documented
  split at documented
  · cases documented
    simp [Details.kind]
  · split at documented
    · cases documented
      simp [Details.kind]
    · obtain ⟨_, -, equal⟩ := Option.map_eq_some_iff.mp documented
      cases equal
      simp [Details.kind]

theorem Header.kind_of_mem_records {file : String} {s : List Char} {record : Record}
    (member : record ∈ Header.records file s) : record.kind ≠ .topic := by
  obtain ⟨block, -, documented⟩ := List.mem_filterMap.mp member
  obtain ⟨⟨name, details⟩, subject, rfl⟩ := Option.map_eq_some_iff.mp documented
  exact Header.kind_of_subject? subject

namespace Ingest

variable {around : Surroundings} {headers directory : String} {records guides : List Record}

theorem kind_of_mem_headerDirectory (read : headerDirectory around headers = .ok records) :
    ∀ record ∈ records, record.kind ≠ .topic := by
  unfold headerDirectory at read
  split_ifs at read
  cases read
  intro record member
  obtain ⟨_, -, listed⟩ := List.mem_flatMap.mp member
  exact Header.kind_of_mem_records listed

theorem exists_of_mem_guideDirectory (read : guideDirectory around directory = .ok guides) :
    ∀ guide ∈ guides, ∃ name text, guide = guideRecord (readingOrder around directory) name text := by
  unfold guideDirectory at read
  split_ifs at read
  cases read
  intro guide member
  obtain ⟨⟨path, text⟩, -, kept⟩ := List.mem_filterMap.mp member
  dsimp only at kept
  split at kept
  · split_ifs at kept
    exact ⟨_, text, (Option.some.inj kept).symm⟩
  · contradiction

/-- The reading order for a directory of headers: that of the guides next to it, if there are any. -/
def orderFor (around : Surroundings) (headers : String) : List String :=
  ((guidesPath? around headers).map (readingOrder around)).getD []

/-- The records of headers and the guides that a catalog is built from, with the order that places the guides. -/
structure Parts (order : List String) (records guides : List Record) : Prop where
  records : ∀ record ∈ records, record.kind ≠ .topic
  guides : ∀ guide ∈ guides, ∃ name text, guide = guideRecord order name text

/-- A build that gives a catalog adds guides to the catalog of the headers. -/
theorem parts_of_build {catalog : Catalog} (built : build around headers = .ok catalog) :
    ∃ records guides, Parts (orderFor around headers) records guides ∧
      catalog = addGuides (Catalog.ofRecords records) guides := by
  unfold build at built
  cases read : headerDirectory around headers with
  | error reason => simp [read, bind, Except.bind] at built
  | ok records =>
    have plain := kind_of_mem_headerDirectory read
    cases path : guidesPath? around headers with
    | none =>
      simp only [read, path, bind, Except.bind, pure, Except.pure, Except.ok.injEq] at built
      exact ⟨records, [], ⟨plain, by simp⟩, built.symm⟩
    | some directory =>
      cases listed : guideDirectory around directory with
      | error reason => simp [read, path, listed, bind, Except.bind] at built
      | ok guides =>
        simp only [read, path, listed, bind, Except.bind, pure, Except.pure, Except.ok.injEq] at built
        refine ⟨records, guides, ⟨plain, ?_⟩, built.symm⟩
        rw [orderFor, path, Option.map_some, Option.getD_some]
        exact exists_of_mem_guideDirectory listed

namespace Parts

variable {order : List String} (parts : Parts order records guides)

include parts

theorem kind_of_mem_guides {guide : Record} (member : guide ∈ guides) : guide.kind = .topic := by
  obtain ⟨name, text, rfl⟩ := parts.guides guide member
  rfl

theorem kind_of_mem_refinedGuides {guide : Record} (member : guide ∈ refinedGuides records guides) :
    guide.kind = .topic := by
  obtain ⟨place, present⟩ := List.mem_iff_getElem?.mp member
  rw [refinedGuides_getElem?] at present
  obtain ⟨original, listed, rfl⟩ := Option.map_eq_some_iff.mp present
  rw [Guide.refine_kind]
  exact parts.kind_of_mem_guides (List.mem_of_getElem? listed)

/-- A guide of the built catalog was read as a guide and refined by what came before it. -/
theorem exists_guide {record : Record} (isTopic : record.kind = .topic)
    (member : record ∈ (addGuides (Catalog.ofRecords records) guides).records) :
    ∃ place guide, guides[place]? = some guide ∧
      record = Guide.refine (Catalog.ofRecords (records ++ guides.take place)) guide := by
  rw [(coherent_addGuides records guides).mem_records_iff, lastNamed_append, Option.or_eq_some_iff] at member
  rcases member with last | ⟨-, last⟩
  · obtain ⟨place, present⟩ := List.mem_iff_getElem?.mp (mem_of_lastNamed last)
    rw [refinedGuides_getElem?] at present
    obtain ⟨guide, listed, rfl⟩ := Option.map_eq_some_iff.mp present
    exact ⟨place, guide, listed, rfl⟩
  · exact absurd isTopic (parts.records record (mem_of_lastNamed last))

end Parts

end Ingest

end ApiAtlas
