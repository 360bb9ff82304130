import ApiAtlas.Proofs.Files.Listing
import ApiAtlas.Proofs.Ingest.Guides

/-! # What a build contains

A build reads the headers and the guides, both in the order of their files, and joins their records. What
is read is said through listings, so the order in which a tree has its places does not show.
-/

namespace ApiAtlas.Ingest

/-- The records of the headers below a place, file by file. -/
def HeadersIn (tree : FileTree) (place : List String) (records : List Record) : Prop :=
  ∃ files, tree.IsListing place (FileTree.HasExtension "h") files ∧
    records = files.flatMap fun (path, text) => Header.records (path.getLast?.getD "") text.toList

/-- The path of a guide within its directory. -/
def IsGuidePath (path : List String) : Prop :=
  ∃ slug, slug ≠ "" ∧ slug ≠ "index" ∧ path = [slug ++ ".md"]

/-- The reading order that a directory of guides gives: that of the text of its page `index.md`, if there is one. -/
def orderIn (tree : FileTree) (place : List String) : List String :=
  match (tree.bytes? (place ++ ["index.md"])).bind String.fromUTF8? with
  | some text => Guide.orderedGuides text.toList
  | none => []

/-- The guides of a directory, file by file. -/
def GuidesIn (tree : FileTree) (place : List String) (guides : List Record) : Prop :=
  ∃ files : List (String × String),
    tree.IsListing place IsGuidePath (files.map fun (slug, text) => ([slug ++ ".md"], text)) ∧
    guides = files.map fun (slug, text) => guideRecord (orderIn tree place) slug text

/-- Where guides for a directory of headers stand: among the documents next to it or, if there is no such
directory, by themselves. -/
inductive GuidesStand (around : Surroundings) (headers : String) : String → Prop
  | documents {base : String} (next : Path.parent? headers = some base)
      (there : around.isDirectory (Path.join (Path.join base "docs") "topics") = true) :
      GuidesStand around headers (Path.join (Path.join base "docs") "topics")
  | beside {base : String} (next : Path.parent? headers = some base)
      (absent : around.isDirectory (Path.join (Path.join base "docs") "topics") = false)
      (there : around.isDirectory (Path.join base "topics") = true) :
      GuidesStand around headers (Path.join base "topics")

/-- The records of the headers that a path leads to. -/
def HeadersOf (around : Surroundings) (headers : String) (records : List Record) : Prop :=
  ∃ place, around.tree.resolve? around.start headers = some place ∧ HeadersIn around.tree place records

/-- The guides for a directory of headers. There are none without a directory for them. -/
def GuidesOf (around : Surroundings) (headers : String) (guides : List Record) : Prop :=
  (∃ directory place, GuidesStand around headers directory ∧
    around.tree.resolve? around.start directory = some place ∧ GuidesIn around.tree place guides) ∨
  (∀ directory, ¬GuidesStand around headers directory) ∧ guides = []

/-- The reading order for a directory of headers: the one that the directory of its guides gives. -/
def OrderOf (around : Surroundings) (headers : String) (order : List String) : Prop :=
  (∃ directory place, GuidesStand around headers directory ∧
    around.tree.resolve? around.start directory = some place ∧ order = orderIn around.tree place) ∨
  (∀ directory, ¬GuidesStand around headers directory) ∧ order = []

variable {around : Surroundings} {headers directory : String} {place : List String}

theorem guidesPath?_eq_some_iff :
    guidesPath? around headers = some directory ↔ GuidesStand around headers directory := by
  unfold guidesPath? guideCandidates
  constructor
  · intro found
    cases next : Path.parent? headers with
    | none => simp [next] at found
    | some base =>
      simp only [next, List.find?_cons, List.find?_nil] at found
      cases first : around.isDirectory (Path.join (Path.join base "docs") "topics") with
      | true =>
        obtain rfl := Option.some.inj (by simpa [first] using found)
        exact .documents next first
      | false =>
        cases second : around.isDirectory (Path.join base "topics") with
        | true =>
          obtain rfl := Option.some.inj (by simpa [first, second] using found)
          exact .beside next first second
        | false => simp [first, second] at found
  · rintro (⟨next, there⟩ | ⟨next, absent, there⟩)
    · simp [next, there]
    · simp [next, absent, there]

theorem GuidesStand.isDirectory (stand : GuidesStand around headers directory) :
    around.isDirectory directory = true := by
  cases stand <;> assumption

theorem GuidesStand.unique {other : String} (stand : GuidesStand around headers directory)
    (again : GuidesStand around headers other) : directory = other := by
  rw [← guidesPath?_eq_some_iff] at stand again
  exact Option.some.inj (stand.symm.trans again)

theorem exists_place (there : around.isDirectory directory = true) :
    ∃ place, around.tree.resolve? around.start directory = some place ∧ around.tree.isDirectory place = true := by
  simpa [Surroundings.isDirectory, FileTree.isDirectoryAt, Option.any_eq_true] using there

/-- Reading a directory of headers gives the records of its listing. -/
theorem headerDirectory_ok (proper : around.tree.WellFormed) (there : around.isDirectory headers = true) :
    ∃ records, HeadersOf around headers records ∧ headerDirectory around headers = .ok records := by
  obtain ⟨place, leads, -⟩ := exists_place there
  have listing : around.tree.IsListing place (FileTree.HasExtension "h") (around.texts headers "h") :=
    around.texts_isListing proper leads (by decide)
  refine ⟨_, ⟨place, leads, _, listing, rfl⟩, ?_⟩
  rw [headerDirectory, if_pos there]

theorem HeadersIn.unique {tree : FileTree} {records others : List Record} (held : HeadersIn tree place records)
    (again : HeadersIn tree place others) : records = others := by
  obtain ⟨files, listing, rfl⟩ := held
  obtain ⟨same, relisting, rfl⟩ := again
  rw [listing.unique relisting]

theorem append_dot_md (slug : String) : slug ++ "." ++ "md" = slug ++ ".md" := by
  rw [String.append_assoc]
  rfl

theorem hasExtension_singleton_iff {file : String} :
    FileTree.HasExtension "md" [file] ↔ ∃ slug, slug ≠ "" ∧ file = slug ++ ".md" := by
  constructor
  · rintro ⟨above, slug, filled, shape⟩
    cases above with
    | nil => exact ⟨slug, filled, by simpa [append_dot_md] using shape⟩
    | cons first rest => simp at shape
  · rintro ⟨slug, filled, rfl⟩
    exact ⟨[], slug, filled, by rw [append_dot_md, List.nil_append]⟩

theorem append_md_eq_orderFile_iff {slug : String} : slug ++ ".md" = orderFile ↔ slug = "index" := by
  have written : orderFile = "index" ++ ".md" := by decide
  rw [written, String.append_left_inj]

/-- Whether a file of a directory of guides can be a guide. -/
def isGuideFile : List String → Bool
  | [file] => file != orderFile
  | _ => false

theorem hasExtension_and_isGuideFile_iff (path : List String) :
    FileTree.HasExtension "md" path ∧ isGuideFile path = true ↔ IsGuidePath path := by
  constructor
  · rintro ⟨ends, kept⟩
    match path, ends, kept with
    | [file], ends, kept =>
      obtain ⟨slug, filled, rfl⟩ := hasExtension_singleton_iff.mp ends
      refine ⟨slug, filled, ?_, rfl⟩
      simpa [isGuideFile, append_md_eq_orderFile_iff] using kept
  · rintro ⟨slug, filled, other, rfl⟩
    refine ⟨hasExtension_singleton_iff.mpr ⟨slug, filled, rfl⟩, ?_⟩
    simpa [isGuideFile, append_md_eq_orderFile_iff] using other

/-- The text of a guide with the name of the guide. -/
def guideText? : List String × String → Option (String × String)
  | ([file], text) => if file = orderFile then none else some (Path.stem file, text)
  | _ => none

/-- The texts of guides are those of the files that can be guides. -/
theorem filterMap_guideText? {texts : List (List String × String)}
    (ends : ∀ file ∈ texts, FileTree.HasExtension "md" file.1) :
    (texts.filterMap guideText?).map (fun (slug, text) => ([slug ++ ".md"], text)) =
      texts.filter fun file => isGuideFile file.1 := by
  rw [List.map_filterMap, ← List.filterMap_eq_filter]
  apply List.filterMap_congr
  rintro ⟨path, text⟩ member
  match path, ends _ member with
  | [file], ends =>
    obtain ⟨slug, filled, rfl⟩ := hasExtension_singleton_iff.mp ends
    have named : Path.stem (slug ++ ".md") = slug := by
      rw [← append_dot_md, Path.stem_append filled (by decide)]
    by_cases order : slug ++ ".md" = orderFile
    · simp [guideText?, isGuideFile, order, Option.guard]
    · simp [guideText?, isGuideFile, order, named, Option.guard]
  | [], _ => rfl
  | _ :: _ :: _, _ => rfl

theorem isPlain_orderFile : Path.IsPlain orderFile :=
  ⟨by decide, by decide, by decide, by decide⟩

theorem readingOrder_eq (leads : around.tree.resolve? around.start directory = some place)
    (there : around.tree.isDirectory place = true) :
    readingOrder around directory = orderIn around.tree place := by
  have page : around.text? (Path.join directory orderFile) =
      (around.tree.bytes? (place ++ [orderFile])).bind String.fromUTF8? := by
    rw [Surroundings.text?, FileTree.text?, FileTree.resolve?_join leads there isPlain_orderFile]
    cases held : around.tree.entry? (place ++ [orderFile]) with
    | none => simp [FileTree.bytes?, held]
    | some entry => rfl
  rw [readingOrder, page]
  rfl

/-- Reading a directory of guides gives the guides of its listing. -/
theorem guideDirectory_ok (proper : around.tree.WellFormed) (there : around.isDirectory directory = true) :
    ∃ place guides, around.tree.resolve? around.start directory = some place ∧ GuidesIn around.tree place guides ∧
      guideDirectory around directory = .ok guides := by
  obtain ⟨place, leads, isDirectory⟩ := exists_place there
  have listing : around.tree.IsListing place (FileTree.HasExtension "md") (around.texts directory "md") :=
    around.texts_isListing proper leads (by decide)
  have ends : ∀ file ∈ around.texts directory "md", FileTree.HasExtension "md" file.1 := fun file member =>
    ((listing.mem_iff file.1 file.2).mp member).1
  refine ⟨place, _, leads, ⟨(around.texts directory "md").filterMap guideText?, ?_, rfl⟩, ?_⟩
  · rw [filterMap_guideText? ends]
    exact listing.filter hasExtension_and_isGuideFile_iff
  · rw [guideDirectory, if_pos there, readingOrder_eq leads isDirectory, List.map_filterMap]
    refine congrArg Except.ok (List.filterMap_congr ?_)
    rintro ⟨path, text⟩ -
    match path with
    | [file] =>
      by_cases order : file = orderFile
      · simp [guideText?, order]
      · simp [guideText?, order]
    | [] => rfl
    | _ :: _ :: _ => rfl

theorem GuidesIn.unique {tree : FileTree} {guides others : List Record} (held : GuidesIn tree place guides)
    (again : GuidesIn tree place others) : guides = others := by
  obtain ⟨files, listing, rfl⟩ := held
  obtain ⟨same, relisting, rfl⟩ := again
  have injective : Function.Injective fun ((slug, text) : String × String) => ([slug ++ ".md"], text) := by
    rintro ⟨slug, text⟩ ⟨other, content⟩ equal
    simpa [String.append_left_inj] using equal
  rw [List.map_injective_iff.mpr injective (listing.unique relisting)]

/-- Guides are in different files of one directory, so their names differ. -/
theorem GuidesIn.names_nodup {tree : FileTree} {guides : List Record} (held : GuidesIn tree place guides) :
    (guides.map Record.name).Nodup := by
  obtain ⟨files, listing, rfl⟩ := held
  rw [List.map_map]
  apply List.pairwise_map.mpr
  refine (List.pairwise_map.mp listing.ascending).imp ?_
  rintro ⟨slug, text⟩ ⟨other, content⟩ less same
  obtain rfl : slug = other := same
  exact List.lt_irrefl _ less

theorem HeadersOf.unique {records others : List Record} (held : HeadersOf around headers records)
    (again : HeadersOf around headers others) : records = others := by
  obtain ⟨place, leads, inside⟩ := held
  obtain ⟨same, also, other⟩ := again
  obtain rfl : place = same := Option.some.inj (leads.symm.trans also)
  exact inside.unique other

theorem GuidesOf.unique {guides others : List Record} (held : GuidesOf around headers guides)
    (again : GuidesOf around headers others) : guides = others := by
  rcases held with ⟨directory, place, stand, leads, inside⟩ | ⟨absent, rfl⟩
  · rcases again with ⟨same, spot, also, follows, other⟩ | ⟨absent, -⟩
    · obtain rfl := stand.unique also
      obtain rfl : place = spot := Option.some.inj (leads.symm.trans follows)
      exact inside.unique other
    · exact absurd stand (absent directory)
  · rcases again with ⟨directory, -, stand, -⟩ | ⟨-, rfl⟩
    · exact absurd stand (absent directory)
    · rfl

theorem OrderOf.unique {order other : List String} (given : OrderOf around headers order)
    (again : OrderOf around headers other) : order = other := by
  rcases given with ⟨directory, place, stand, leads, rfl⟩ | ⟨absent, rfl⟩
  · rcases again with ⟨same, spot, also, follows, rfl⟩ | ⟨absent, -⟩
    · obtain rfl := stand.unique also
      rw [leads, Option.some_inj] at follows
      rw [follows]
    · exact absurd stand (absent directory)
  · rcases again with ⟨directory, -, stand, -⟩ | ⟨-, rfl⟩
    · exact absurd stand (absent directory)
    · rfl

theorem GuidesOf.names_nodup {guides : List Record} (held : GuidesOf around headers guides) :
    (guides.map Record.name).Nodup := by
  rcases held with ⟨_, _, -, -, inside⟩ | ⟨-, rfl⟩
  · exact inside.names_nodup
  · exact List.nodup_nil

/-- A build reads the headers and the guides and adds the guides to the catalog of the headers. -/
theorem build_ok (proper : around.tree.WellFormed) (there : around.isDirectory headers = true) :
    ∃ records guides, HeadersOf around headers records ∧ GuidesOf around headers guides ∧
      build around headers = .ok (addGuides (Catalog.ofRecords records) guides) := by
  obtain ⟨records, held, read⟩ := headerDirectory_ok proper there
  cases path : guidesPath? around headers with
  | none =>
    have absent (directory : String) : ¬GuidesStand around headers directory := by
      rw [← guidesPath?_eq_some_iff, path]
      simp
    refine ⟨records, [], held, .inr ⟨absent, rfl⟩, ?_⟩
    rw [build, read, path]
    rfl
  | some directory =>
    have stand := guidesPath?_eq_some_iff.mp path
    obtain ⟨place, guides, leads, inside, listed⟩ := guideDirectory_ok proper stand.isDirectory
    refine ⟨records, guides, held, .inl ⟨directory, place, stand, leads, inside⟩, ?_⟩
    rw [build, read, path]
    simp only [listed]
    rfl

section View

variable {tree : FileTree} {records guides : List Record}
  (same : ∀ place, tree.entry? place = around.tree.entry? place)

include same

theorem HeadersOf.congr (held : HeadersOf ⟨tree, around.start⟩ headers records) :
    HeadersOf around headers records := by
  obtain ⟨place, leads, files, listing, rfl⟩ := held
  exact ⟨place, FileTree.resolve?_congr same ▸ leads, files, listing.congr same, rfl⟩

theorem GuidesIn.congr (held : GuidesIn tree place guides) : GuidesIn around.tree place guides := by
  obtain ⟨files, listing, rfl⟩ := held
  refine ⟨files, listing.congr same, ?_⟩
  rw [orderIn, orderIn, FileTree.bytes?_congr same]

theorem isDirectory_congr : Surroundings.isDirectory ⟨tree, around.start⟩ = around.isDirectory := by
  funext path
  simp only [Surroundings.isDirectory, FileTree.isDirectoryAt, FileTree.resolve?_congr same,
    FileTree.isDirectory_congr same]

theorem guidesStand_congr :
    GuidesStand ⟨tree, around.start⟩ headers directory ↔ GuidesStand around headers directory := by
  rw [← guidesPath?_eq_some_iff, ← guidesPath?_eq_some_iff, guidesPath?, guidesPath?, isDirectory_congr same]

theorem GuidesOf.congr (held : GuidesOf ⟨tree, around.start⟩ headers guides) :
    GuidesOf around headers guides := by
  rcases held with ⟨directory, place, stand, leads, inside⟩ | ⟨absent, rfl⟩
  · exact .inl ⟨directory, place, (guidesStand_congr same).mp stand, FileTree.resolve?_congr same ▸ leads,
      inside.congr same⟩
  · exact .inr ⟨fun directory stand => absent directory ((guidesStand_congr same).mpr stand), rfl⟩

end View

/-- A build from a directory joins the records of its headers and of its guides. It is the same whatever
order the places of the tree are in. -/
theorem build_joins (proper : around.tree.WellFormed) (there : around.isDirectory headers = true) :
    ∃ records guides catalog,
      (∀ others, HeadersOf around headers others ↔ others = records) ∧
      (∀ others, GuidesOf around headers others ↔ others = guides) ∧
      build around headers = .ok catalog ∧ (guides.map Record.name).Nodup ∧ catalog.Joins records guides ∧
      ∀ tree : FileTree, tree.entries.Perm around.tree.entries →
        build ⟨tree, around.start⟩ headers = .ok catalog := by
  obtain ⟨records, guides, held, given, built⟩ := build_ok proper there
  refine ⟨records, guides, addGuides (Catalog.ofRecords records) guides, ?_, ?_, built, given.names_nodup,
    joins_addGuides given.names_nodup, fun tree perm => ?_⟩
  · exact fun others => ⟨fun again => again.unique held, fun equal => equal ▸ held⟩
  · exact fun others => ⟨fun again => again.unique given, fun equal => equal ▸ given⟩
  · obtain ⟨sound, same⟩ := proper.of_perm perm
    have still : Surroundings.isDirectory ⟨tree, around.start⟩ headers = true := by
      rw [isDirectory_congr same, there]
    obtain ⟨others, pages, read, found, rebuilt⟩ := @build_ok ⟨tree, around.start⟩ headers sound still
    rw [rebuilt, (read.congr same).unique held, (found.congr same).unique given]

/-- Two headers that document one name, as a struct and then as an enum, and a guide next to them. -/
def sampleFiles : Surroundings :=
  ⟨⟨[(["work"], .directory), (["work", "include"], .directory), (["work", "include", "core"], .directory),
    (["work", "include", "core", "a.h"], .file "/**\n * @enum CF_Key\n * @brief Keys.\n */\n".toUTF8),
    (["work", "include", "b.h"], .file "/**\n * @struct CF_Key\n * @brief A key.\n */\n".toUTF8),
    (["work", "topics"], .directory),
    (["work", "topics", "input.md"], .file "[Key](../input/CF_Key.md)".toUTF8)]⟩, []⟩

theorem build_joins_sample : sampleFiles.tree.WellFormed ∧ sampleFiles.isDirectory "/work/include" = true ∧
    ∃ records guides catalog, HeadersOf sampleFiles "/work/include" records ∧
      GuidesOf sampleFiles "/work/include" guides ∧ build sampleFiles "/work/include" = .ok catalog ∧
      catalog.Joins records guides ∧ catalog.records.map Record.name = ["CF_Key", "input"] ∧
      (catalog.find? "CF_Key").map Record.kind = some .enum ∧
      build ⟨⟨sampleFiles.tree.entries.reverse⟩, []⟩ "/work/include" = .ok catalog := by
  have proper : sampleFiles.tree.WellFormed := ⟨by decide +kernel, by decide +kernel⟩
  have there : sampleFiles.isDirectory "/work/include" = true := by decide +kernel
  obtain ⟨records, guides, catalog, held, given, built, -, joins, reordered⟩ := build_joins proper there
  have shown : (build sampleFiles "/work/include").toOption.map (fun catalog =>
      (catalog.records.map Record.name, (catalog.find? "CF_Key").map Record.kind)) =
      some (["CF_Key", "input"], some .enum) := by decide +kernel
  obtain ⟨names, kind⟩ : catalog.records.map Record.name = ["CF_Key", "input"] ∧
      (catalog.find? "CF_Key").map Record.kind = some .enum := by simpa [built, Except.toOption] using shown
  exact ⟨proper, there, records, guides, catalog, (held records).mpr rfl, (given guides).mpr rfl, built, joins,
    names, kind, reordered _ (List.reverse_perm _)⟩

end ApiAtlas.Ingest
