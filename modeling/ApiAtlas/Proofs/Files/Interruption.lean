import ApiAtlas.Ingest.Source
import ApiAtlas.Proofs.Files.Confinement

/-! # Extractions that fail

An extraction that fails leaves behind what it had written by then. Its directory of headers has
something in it exactly if an entry below the headers came before the failure, that is, if some cut of
the archive with such an entry in it can be extracted. A cache is looked at no closer than that, so what
such a failure leaves is taken for a cache.
-/

namespace ApiAtlas.Archive

variable {tree cleared before after : FileTree} {dest : List String} {entry : ArchiveEntry}
  {done : List ArchiveEntry} {shown : String}

/-- An entry belongs to a place below the directory of headers. -/
def IsBelowHeaders (entry : ArchiveEntry) : Prop :=
  ∃ name path, BelongsAt entry.name ("include" :: name :: path)

theorem IsBelowHeaders.isHeader (below : IsBelowHeaders entry) : IsHeader entry := by
  obtain ⟨name, path, belongs⟩ := below
  exact ⟨_, belongs, by simp⟩

/-- Where nothing was, a run of entries fills the directory of headers if one of them lies below it. -/
theorem isPopulated_extractAll? (proper : cleared.WellFormed)
    (free : ∀ path, Documented path → cleared.entry? (dest ++ path) = none)
    (run : extractAll? dest cleared done = some after) :
    after.isPopulated (dest ++ ["include"]) = true ↔ ∃ entry ∈ done, IsBelowHeaders entry := by
  have taken := isSome_extractAll? run
  rw [FileTree.isPopulated_iff]
  constructor
  · rintro ⟨-, path, filled, occupied⟩
    obtain ⟨name, more, rfl⟩ := List.exists_cons_of_ne_nil filled
    rw [List.append_assoc, taken, free _ (.inl (List.prefix_append _ _))] at occupied
    obtain ⟨entry, member, full, belongs, starts⟩ := occupied.resolve_left (by simp)
    obtain ⟨rest, rfl⟩ := (List.prefix_append_right_inj dest).mp starts
    exact ⟨entry, member, name, more ++ rest, by simpa using belongs⟩
  · rintro ⟨entry, member, name, path, belongs⟩
    have occupied : (after.entry? (dest ++ ["include"] ++ [name])).isSome :=
      (taken _).mpr (.inr ⟨entry, member, _, belongs, by simp⟩)
    refine ⟨?_, [name], by simp, occupied⟩
    rw [FileTree.isDirectory_iff]
    exact (extractAll?_wellFormed run proper).isDirectory_of_taken (by simp) occupied

theorem extractAll?_eq_none_of_blocked {rest : List ArchiveEntry}
    (reached : extractAll? dest tree done = some before) (blocked : extractOne? dest before entry = none) :
    extractAll? dest tree (done ++ entry :: rest) = none := by
  rw [extractAll?_append, reached, Option.bind_some, extractAll?, blocked, Option.bind_none]

/-- Once the old copies are gone, entries with a header among them are extracted if all of them can be. -/
theorem extract_eq_ok_iff (proper : tree.WellFormed)
    (removal : removeStale tree (staleOf dest shown) = (cleared, .ok ())) :
    (∃ text, (extract ⟨done, true⟩ dest shown tree).2 = .ok text) ↔
      (extractAll? dest cleared done).isSome ∧ ∃ entry ∈ done, IsHeader entry := by
  rcases ran : extract ⟨done, true⟩ dest shown tree with ⟨after, outcome⟩
  rcases extract_cases proper ran with ⟨error, -, failed⟩ | ⟨other, again, continued⟩
  · rw [removal] at failed
    simp at failed
  · obtain rfl : cleared = other := by simpa [removal] using again
    rcases continued with ⟨error, first, entry, rest, before, rfl, split, reached, blocked, -⟩ | ⟨run, result⟩
    · dsimp only at split
      rw [split, extractAll?_eq_none_of_blocked reached blocked]
      simp
    · rcases result with ⟨⟨error, rfl⟩, missing⟩ | ⟨rfl, -, header⟩
      · simpa [run] using missing
      · simpa [run] using header

/-- A removal that fails leaves no directory of headers. -/
theorem not_isPopulated_of_removal {error : ExtractError} (proper : tree.WellFormed)
    (removal : removeStale tree (staleOf dest shown) = (after, .error error)) :
    after.isPopulated (dest ++ ["include"]) = false := by
  have rooted := staleOf_rooted dest shown
  obtain ⟨removed, spot, label, rest, split, success, bytes, present⟩ :=
    removeStale_eq_error proper rooted removal
  have other : after.entry? (dest ++ ["include"]) ≠ some .directory := by
    rw [split, List.forall_mem_append] at rooted
    cases removed with
    | nil =>
      obtain rfl : dest ++ ["include"] = spot := congrArg Prod.fst (List.cons.inj split).1
      simp [present]
    | cons first more =>
      obtain rfl : (dest ++ ["include"], headersText shown) = first := (List.cons.inj split).1
      have free := (removeStale_eq_ok proper rooted.1 success).2.1
      simp [free _ (List.mem_cons_self ..) (dest ++ ["include"]) (List.prefix_refl _)]
  rw [Bool.eq_false_iff, ne_eq, FileTree.isPopulated_iff, FileTree.isDirectory_iff]
  exact fun populated => other populated.1

/-- The headers below a destination are in one tree what they are in another. -/
def HeadersKept (dest : List String) (before after : FileTree) : Prop :=
  ∀ path, after.entry? (dest ++ "include" :: path) = before.entry? (dest ++ "include" :: path)

/-- An archive can be extracted up to a point, and by then an entry below the headers has come. -/
def ReachesHeaders (archive : Archive) (dest : List String) (shown : String) (tree : FileTree) : Prop :=
  ∃ done rest, archive.entries = done ++ rest ∧ (∃ text, (extract ⟨done, true⟩ dest shown tree).2 = .ok text) ∧
    ∃ entry ∈ done, IsBelowHeaders entry

/-- Once the old copies are gone, only the entries matter. -/
theorem reachesHeaders_iff {archive : Archive} (proper : tree.WellFormed)
    (removal : removeStale tree (staleOf dest shown) = (cleared, .ok ())) :
    ReachesHeaders archive dest shown tree ↔
      ∃ done rest, archive.entries = done ++ rest ∧ (extractAll? dest cleared done).isSome ∧
        ∃ entry ∈ done, IsBelowHeaders entry := by
  unfold ReachesHeaders
  simp only [extract_eq_ok_iff proper removal]
  refine exists_congr fun done => exists_congr fun rest => and_congr_right fun _ => ?_
  rw [and_assoc]
  refine and_congr_right fun _ => and_iff_right_of_imp ?_
  rintro ⟨entry, member, below⟩
  exact ⟨entry, member, below.isHeader⟩

/-- Without the removal of the old copies no archive gets anywhere. -/
theorem not_reachesHeaders_of_removal {archive : Archive} {error : ExtractError} (proper : tree.WellFormed)
    (removal : removeStale tree (staleOf dest shown) = (after, .error error)) :
    ¬ReachesHeaders archive dest shown tree := by
  rintro ⟨done, rest, -, ⟨text, success⟩, -⟩
  rcases ran : extract ⟨done, true⟩ dest shown tree with ⟨final, outcome⟩
  rw [ran] at success
  rcases extract_cases proper ran with ⟨error, rfl, -⟩ | ⟨cleared, again, -⟩
  · simp at success
  · simp [removal] at again

/-- A run that stops at an entry has extracted every cut that can be extracted. -/
theorem isPrefix_of_extractAll?_isSome {cut first rest more : List ArchiveEntry}
    (split : first ++ entry :: rest = cut ++ more) (reached : extractAll? dest tree first = some before)
    (blocked : extractOne? dest before entry = none) (success : (extractAll? dest tree cut).isSome) :
    cut <+: first := by
  have starts : cut <+: first ++ entry :: rest := split ▸ List.prefix_append cut more
  have front : first <+: first ++ entry :: rest := List.prefix_append ..
  rcases List.prefix_or_prefix_of_prefix starts front with inside | ⟨others, rfl⟩
  · exact inside
  · cases others with
    | nil => simp
    | cons next others =>
      obtain ⟨rfl, -⟩ : entry = next ∧ _ := by simpa using split
      simp [extractAll?_eq_none_of_blocked reached blocked] at success

/-- What a failed extraction leaves has headers in it exactly if the extraction got as far as one. -/
theorem isPopulated_iff_reachesHeaders {archive : Archive} {error : ExtractError} (proper : tree.WellFormed)
    (failed : archive.extract dest shown tree = (after, .error error)) :
    after.isPopulated (dest ++ ["include"]) = true ↔ ReachesHeaders archive dest shown tree := by
  rcases extract_cases proper failed with ⟨error, -, removal⟩ | ⟨cleared, removal, continued⟩
  · simp [not_isPopulated_of_removal proper removal, not_reachesHeaders_of_removal proper removal]
  · have sound := (removeStale_eq_ok proper (staleOf_rooted dest shown) removal).1
    have populated {first : List ArchiveEntry} {final : FileTree}
        (run : extractAll? dest cleared first = some final) :=
      isPopulated_extractAll? sound (fun path => free_of_removeStale proper removal) run
    rw [reachesHeaders_iff proper removal]
    rcases continued with ⟨_, done, entry, rest, before, -, split, reached, blocked, same⟩ | ⟨run, -⟩
    · rw [FileTree.isPopulated_congr same, populated reached]
      constructor
      · intro header
        exact ⟨done, entry :: rest, split, by simp [reached], header⟩
      · rintro ⟨cut, more, other, success, header, member, below⟩
        have inside := isPrefix_of_extractAll?_isSome (split.symm.trans other) reached blocked success
        exact ⟨header, inside.subset member, below⟩
    · rw [populated run]
      constructor
      · intro header
        exact ⟨archive.entries, [], by simp, by simp [run], header⟩
      · rintro ⟨cut, more, split, -, header, member, below⟩
        exact ⟨header, split ▸ List.mem_append_left more member, below⟩

/-- A failed extraction leaves the headers as they were, or none that a cache could be taken for, exactly
if it leaves them as they were whenever it gets as far as one of them. Nothing sees to that. -/
theorem kept_or_unpopulated_iff {archive : Archive} {error : ExtractError} (proper : tree.WellFormed)
    (failed : archive.extract dest shown tree = (after, .error error)) :
    HeadersKept dest tree after ∨ after.isPopulated (dest ++ ["include"]) = false ↔
      (ReachesHeaders archive dest shown tree → HeadersKept dest tree after) := by
  rw [← isPopulated_iff_reachesHeaders proper failed]
  cases after.isPopulated (dest ++ ["include"]) <;> simp

/-- A cache with nothing in it. -/
def emptyCache : FileTree :=
  ⟨[(["cache"], .directory)]⟩

/-- An archive with a header below another one, so that the second cannot be extracted. -/
def blockedArchive : Archive :=
  ⟨[⟨"top/include/a.h", ⟨#[1]⟩, false⟩, ⟨"top/include/a.h/b.h", ⟨#[2]⟩, false⟩], true⟩

theorem emptyCache_wellFormed : emptyCache.WellFormed :=
  ⟨by decide +kernel, by decide +kernel⟩

theorem not_headersKept_blockedArchive :
    ¬HeadersKept ["cache"] emptyCache (blockedArchive.extract ["cache"] "/cache" emptyCache).1 := by
  intro kept
  have taken := congrArg Option.isSome (kept [])
  exact absurd taken (by decide +kernel)

theorem kept_or_unpopulated_iff_blocked : emptyCache.WellFormed ∧
    (blockedArchive.extract ["cache"] "/cache" emptyCache).2 = .error (.cannotCreate "/cache/include/a.h") ∧
    ReachesHeaders blockedArchive ["cache"] "/cache" emptyCache := by
  have failed : blockedArchive.extract ["cache"] "/cache" emptyCache =
      ((blockedArchive.extract ["cache"] "/cache" emptyCache).1, .error (.cannotCreate "/cache/include/a.h")) :=
    Prod.ext rfl (by decide +kernel)
  refine ⟨emptyCache_wellFormed, congrArg Prod.snd failed, ?_⟩
  have condition := kept_or_unpopulated_iff emptyCache_wellFormed failed
  by_contra short
  rcases condition.mpr (absurd · short) with kept | unpopulated
  · exact not_headersKept_blockedArchive kept
  · exact absurd unpopulated (by decide +kernel)

/-- The failure that leaves one header of two, where there was none, makes a cache of it. -/
theorem failed_extraction_taken_for_cache :
    let result := blockedArchive.extract ["cache"] "/cache" emptyCache
    emptyCache.WellFormed ∧ result.2 = .error (.cannotCreate "/cache/include/a.h") ∧
    ¬(HeadersKept ["cache"] emptyCache result.1 ∨ result.1.isPopulated ["cache", "include"] = false) ∧
    Source.headersPath ⟨result.1, []⟩ ⟨some "/home", none, "/tmp"⟩ ⟨none, true, some "/cache"⟩ =
      .ok "/cache/include" := by
  refine ⟨emptyCache_wellFormed, by decide +kernel, ?_, by decide +kernel⟩
  rintro (kept | unpopulated)
  · exact not_headersKept_blockedArchive kept
  · exact absurd unpopulated (by decide +kernel)

end ApiAtlas.Archive
