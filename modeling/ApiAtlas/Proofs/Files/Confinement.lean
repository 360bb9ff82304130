import ApiAtlas.Proofs.Files.Extraction

/-! # Extraction is confined and exact

Whatever the names in an archive are and however an extraction ends, it stays within the headers and
the guides of its destination; on the way there it may only make directories. An extraction that
succeeds leaves the files of the archive there and nothing else.
-/

namespace ApiAtlas.Archive

variable {tree before next after : FileTree} {dest place path : List String} {entry : ArchiveEntry}
  {entries : List ArchiveEntry}

/-- A path below a destination lies among the headers or the guides. -/
def Documented (path : List String) : Prop :=
  ["include"] <+: path ∨ ["docs", "topics"] <+: path

/-- Outside the headers and the guides of a destination nothing differs, except that the destination, what
is above it and its directory of documents may have been made. -/
def Confined (dest : List String) (before after : FileTree) : Prop :=
  ∀ place, (∀ path, Documented path → place ≠ dest ++ path) →
    after.entry? place = before.entry? place ∨
      place <+: dest ++ ["docs"] ∧ before.entry? place = none ∧ after.entry? place = some .directory

theorem confined_of_entry?_eq (same : ∀ place, after.entry? place = before.entry? place) :
    Confined dest before after :=
  fun place _ => .inl (same place)

theorem Confined.trans (first : Confined dest tree before) (second : Confined dest before after) :
    Confined dest tree after := by
  intro place outside
  rcases first place outside with same | ⟨leads, free, made⟩
  · rw [← same]
    exact second place outside
  · rcases second place outside with same | ⟨-, gone, -⟩
    · exact .inr ⟨leads, free, same.trans made⟩
    · rw [made] at gone
      contradiction

/-- What lies on the way to the headers or the guides without being among them leads to the documents. -/
theorem prefix_docs_of_outside (outside : ∀ path, Documented path → place ≠ dest ++ path)
    (documented : Documented path) (starts : place <+: dest ++ path) : place <+: dest ++ ["docs"] := by
  have upTo (front : List String) (last : String) (inside : front ++ [last] <+: path)
      (marks : ∀ more, Documented (front ++ [last] ++ more)) : place <+: dest ++ front := by
    have leads : dest ++ front ++ [last] <+: dest ++ path := by
      rw [List.append_assoc, List.prefix_append_right_inj]
      exact inside
    rcases List.prefix_or_prefix_of_prefix starts leads with above | ⟨more, further⟩
    · rcases List.prefix_concat_iff.mp above with here | higher
      · exact absurd here (by simpa using outside _ (marks []))
      · exact higher
    · exact absurd further.symm (by simpa using outside _ (marks more))
  rcases documented with header | guide
  · have higher := upTo [] "include" header fun more => .inl (by simp)
    rw [List.append_nil] at higher
    exact higher.trans (List.prefix_append dest ["docs"])
  · exact upTo ["docs"] "topics" guide fun more => .inr (by simp)

theorem confined_extractOne? (success : extractOne? dest tree entry = some next) :
    Confined dest tree next := by
  rcases extractOne?_cases success with ⟨-, rfl⟩ | ⟨path, belongs, -, effect⟩
  · exact confined_of_entry?_eq fun _ => rfl
  · intro place outside
    rw [effect, if_neg (outside path belongs.documented_path)]
    split_ifs with missing
    · exact .inr ⟨prefix_docs_of_outside outside belongs.documented_path missing.1, missing.2, rfl⟩
    · exact .inl rfl

theorem confined_extractAll? (success : extractAll? dest tree entries = some after) :
    Confined dest tree after := by
  induction entries generalizing tree with
  | nil =>
    obtain rfl : tree = after := Option.some.inj success
    exact confined_of_entry?_eq fun _ => rfl
  | cons entry rest ih =>
    obtain ⟨next, first, others⟩ := Option.bind_eq_some_iff.mp success
    exact (confined_extractOne? first).trans (ih others)

theorem documented_of_mem_staleOf {shown : String} {pair : List String × String}
    (member : pair ∈ staleOf dest shown) : ∃ path, pair.1 = dest ++ path ∧ ∀ more, Documented (path ++ more) := by
  rw [staleOf, List.mem_pair] at member
  rcases member with rfl | rfl
  · exact ⟨_, rfl, fun more => .inl (List.prefix_append _ more)⟩
  · exact ⟨_, rfl, fun more => .inr (List.prefix_append _ more)⟩

/-- Removing some of the old copies stays within the headers and the guides. -/
theorem confined_removeStale {shown : String} {stale : List (List String × String)} (proper : tree.WellFormed)
    (known : stale ⊆ staleOf dest shown) (success : removeStale tree stale = (after, .ok ())) :
    Confined dest tree after := by
  intro place outside
  have rooted : ∀ pair ∈ stale, pair.1 ≠ [] := fun pair member => staleOf_rooted dest shown pair (known member)
  refine .inl ((removeStale_eq_ok proper rooted success).2.2 place fun pair member => ?_)
  rintro ⟨more, rfl⟩
  obtain ⟨path, spot, documented⟩ := documented_of_mem_staleOf (known member)
  exact outside _ (documented more) (by rw [spot, List.append_assoc])

theorem free_of_removeStale {shown : String} (proper : tree.WellFormed)
    (success : removeStale tree (staleOf dest shown) = (after, .ok ())) (documented : Documented path) :
    after.entry? (dest ++ path) = none := by
  have free := (removeStale_eq_ok proper (staleOf_rooted dest shown) success).2.1
  rcases documented with inside | inside
  · exact free _ (List.mem_cons_self ..) _ (by simpa using inside)
  · exact free _ (List.mem_cons_of_mem _ (List.mem_singleton_self _)) _ (by simpa using inside)

/-- An extraction touches nothing outside the headers and the guides of its destination, whether it
succeeds or fails. If it succeeds, the files there are those that the archive delivers, each with the
content of its last entry, and every place that is taken leads to an entry of the archive. -/
theorem extract_confined_exact {archive : Archive} {shown : String} {outcome : Except ExtractError String}
    (proper : tree.WellFormed) (ran : archive.extract dest shown tree = (after, outcome)) :
    Confined dest tree after ∧
    ∀ text, outcome = .ok text → ∀ path, Documented path →
      (∀ bytes, after.bytes? (dest ++ path) = some bytes ↔ LastDelivery archive.entries path bytes) ∧
      ((after.entry? (dest ++ path)).isSome ↔
        ∃ entry ∈ archive.entries, ∃ full, BelongsAt entry.name full ∧ path <+: full) := by
  rcases extract_cases proper ran with ⟨error, rfl, removal⟩ | ⟨cleared, removal, continued⟩
  · obtain ⟨done, spot, label, rest, split, success, -⟩ :=
      removeStale_eq_error proper (staleOf_rooted dest shown) removal
    exact ⟨confined_removeStale proper (split ▸ List.subset_append_left ..) success, by simp⟩
  · have removed : Confined dest tree cleared := confined_removeStale proper (List.Subset.refl _) removal
    rcases continued with ⟨error, done, entry, rest, before, rfl, -, reached, -, same⟩ | ⟨run, -⟩
    · exact ⟨(removed.trans (confined_extractAll? reached)).trans (confined_of_entry?_eq same), by simp⟩
    · refine ⟨removed.trans (confined_extractAll? run), fun text _ path documented => ?_⟩
      have free := free_of_removeStale proper removal documented
      refine ⟨fun bytes => ?_, ?_⟩
      · rw [bytes?_extractAll? run, FileTree.bytes?_eq_some_iff, free]
        simp
      · rw [isSome_extractAll? run, free]
        simp [List.prefix_append_right_inj]

/-- A cache with an old header and a file next to it. -/
def sampleCache : FileTree :=
  ⟨[(["cache"], .directory), (["cache", "include"], .directory), (["cache", "include", "old.h"], .file ⟨#[1]⟩),
    (["cache", "notes"], .file ⟨#[2]⟩)]⟩

theorem sampleCache_wellFormed : sampleCache.WellFormed :=
  ⟨by decide +kernel, by decide +kernel⟩

/-- An archive with names that lead upwards, with names that only look like the wanted ones, and with two
entries for one file. -/
def sampleArchive : Archive :=
  ⟨[⟨"top/include/a.h", ⟨#[3]⟩, false⟩, ⟨"top/include/../../notes", ⟨#[4]⟩, false⟩, ⟨"../notes", ⟨#[5]⟩, false⟩,
    ⟨"top/includes/b.h", ⟨#[6]⟩, false⟩, ⟨"//docs/./topics//deep/", ⟨#[]⟩, false⟩,
    ⟨"../include/a.h", ⟨#[7]⟩, false⟩], true⟩

theorem extract_confined_exact_sample : sampleCache.WellFormed ∧
    (sampleArchive.extract ["cache"] "/cache" sampleCache).2 = .ok "/cache/include" ∧
    Confined ["cache"] sampleCache (sampleArchive.extract ["cache"] "/cache" sampleCache).1 ∧
    LastDelivery sampleArchive.entries ["include", "a.h"] ⟨#[7]⟩ := by
  have success : (sampleArchive.extract ["cache"] "/cache" sampleCache).2 = .ok "/cache/include" := by
    decide +kernel
  have result :=
    @extract_confined_exact sampleCache _ ["cache"] sampleArchive "/cache" _ sampleCache_wellFormed rfl
  refine ⟨sampleCache_wellFormed, success, result.1, ?_⟩
  exact ((result.2 _ success ["include", "a.h"] (.inl (by decide))).1 ⟨#[7]⟩).mp (by decide +kernel)

end ApiAtlas.Archive
