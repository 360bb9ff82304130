import ApiAtlas.Ingest.Directory
import ApiAtlas.Proofs.Files.Path
import ApiAtlas.Proofs.Text.ByteOrder

/-! # Listings of text files

The text files below a directory are listed in the order of their paths. A listing is described by what
it holds and by its order. That determines it, so the order in which a tree has its places does not show.
-/

namespace ApiAtlas

section StableSort

variable {α : Type} {before : α → α → Bool}
  (total : ∀ left right, before left right = true ∨ before right left = true)
  (trans : ∀ {left middle right}, before left middle = true → before middle right = true →
    before left right = true)

include total trans

theorem insertBy_sorted (item : α) {items : List α}
    (sorted : items.Pairwise fun left right => before left right = true) :
    (insertBy before item items).Pairwise fun left right => before left right = true := by
  induction items with
  | nil => exact List.pairwise_singleton _ _
  | cons other rest ih =>
    obtain ⟨first, tail⟩ := List.pairwise_cons.mp sorted
    rw [insertBy]
    split_ifs with fits
    · refine List.pairwise_cons.mpr ⟨?_, sorted⟩
      rw [List.forall_mem_cons]
      exact ⟨fits, fun later member => trans fits (first later member)⟩
    · refine List.pairwise_cons.mpr ⟨fun later member => ?_, ih tail⟩
      rcases List.mem_cons.mp ((insertBy_perm before item rest).mem_iff.mp member) with rfl | member
      · exact (total later other).resolve_left fits
      · exact first later member

/-- A total and transitive relation orders what is sorted by it. -/
theorem stableSort_sorted (items : List α) :
    (stableSort before items).Pairwise fun left right => before left right = true := by
  induction items with
  | nil => exact .nil
  | cons item rest ih => exact insertBy_sorted total trans item ih

end StableSort

namespace Text

theorem fromUTF8?_eq_some_iff {bytes : ByteArray} {text : String} :
    String.fromUTF8? bytes = some text ↔ bytes = text.toUTF8 := by
  unfold String.fromUTF8?
  constructor
  · intro decoded
    split_ifs at decoded with valid
    rw [← Option.some.inj decoded]
    rfl
  · rintro rfl
    rw [String.toUTF8_eq_toByteArray, dif_pos text.isValidUTF8]
    rfl

theorem map_bytes_lt {left right : List String} (less : left < right) : left.map bytes < right.map bytes := by
  induction less with
  | nil => exact .nil
  | rel smaller => exact .rel (bytes_lt_bytes smaller)
  | cons _ ih => exact .cons ih

end Text

namespace FileTree

variable {tree other : FileTree} {place : List String} {wanted : List String → Prop}
  {files others : List (List String × String)}

/-- The text files below a place that are wanted, in the order of their paths, name by name and byte by
byte. -/
structure IsListing (tree : FileTree) (place : List String) (wanted : List String → Prop)
    (files : List (List String × String)) : Prop where
  mem_iff : ∀ path text, (path, text) ∈ files ↔ wanted path ∧ tree.bytes? (place ++ path) = some text.toUTF8
  ascending : files.Pairwise fun left right => left.1.map Text.bytes < right.1.map Text.bytes

theorem IsListing.nodup (listing : IsListing tree place wanted files) : files.Nodup := by
  refine listing.ascending.imp ?_
  rintro left right less rfl
  exact List.lt_irrefl _ less

/-- There is one listing only. -/
theorem IsListing.unique (listing : IsListing tree place wanted files)
    (again : IsListing tree place wanted others) : files = others := by
  have perm : files.Perm others := by
    rw [List.perm_ext_iff_of_nodup listing.nodup again.nodup]
    rintro ⟨path, text⟩
    rw [listing.mem_iff, again.mem_iff]
  refine perm.eq_of_pairwise ?_ listing.ascending again.ascending
  intro left right _ _ less greater
  exact absurd greater (List.lt_asymm less)

/-- Leaving out paths leaves a listing. -/
theorem IsListing.filter (listing : IsListing tree place wanted files) {chosen : List String → Prop}
    {keep : List String → Bool} (kept : ∀ path, wanted path ∧ keep path = true ↔ chosen path) :
    IsListing tree place chosen (files.filter fun file => keep file.1) where
  mem_iff path text := by
    rw [List.mem_filter, listing.mem_iff, ← kept, and_right_comm]
  ascending := listing.ascending.filter _

theorem IsListing.congr (listing : IsListing tree place wanted files)
    (same : ∀ place, tree.entry? place = other.entry? place) : IsListing other place wanted files := by
  refine ⟨fun path text => ?_, listing.ascending⟩
  rw [listing.mem_iff, bytes?_congr same]

/-- A path ends with a name that has an extension. -/
def HasExtension (extension : String) (path : List String) : Prop :=
  ∃ above stem, stem ≠ "" ∧ path = above ++ [stem ++ "." ++ extension]

theorem getLast?_bind_extension?_iff {extension : String} (plain : '.' ∉ extension.toList) {path : List String} :
    path.getLast?.bind Path.extension? = some extension ↔ HasExtension extension path := by
  rw [Option.bind_eq_some_iff]
  simp only [List.getLast?_eq_some_iff, Path.extension?_eq_some_iff plain]
  constructor
  · rintro ⟨_, ⟨above, rfl⟩, stem, filled, rfl⟩
    exact ⟨above, stem, filled, rfl⟩
  · rintro ⟨above, stem, filled, rfl⟩
    exact ⟨_, ⟨above, rfl⟩, stem, filled, rfl⟩

theorem mem_filesWithExtension {extension : String} (plain : '.' ∉ extension.toList) {path : List String}
    {bytes : ByteArray} : (path, bytes) ∈ tree.filesWithExtension place extension ↔
      HasExtension extension path ∧ (path, .file bytes) ∈ tree.below place := by
  rw [filesWithExtension, (stableSort_perm _ _).mem_iff, List.mem_filterMap, ← getLast?_bind_extension?_iff plain]
  constructor
  · rintro ⟨⟨spot, entry⟩, member, shape⟩
    cases entry with
    | directory => simp at shape
    | file content =>
      obtain ⟨ends, rfl, rfl⟩ : _ ∧ spot = path ∧ content = bytes := by simpa using shape
      exact ⟨ends, member⟩
  · rintro ⟨ends, member⟩
    exact ⟨_, member, by simp [ends]⟩

theorem WellFormed.below_nodup (proper : tree.WellFormed) (place : List String) :
    ((tree.below place).map Prod.fst).Nodup := by
  apply List.pairwise_map.mpr
  refine (List.pairwise_map.mp proper.nodup).filterMap _ ?_
  rintro ⟨first, _⟩ ⟨second, _⟩ different ⟨left, _⟩ leftShape ⟨right, _⟩ rightShape rfl
  dsimp only at leftShape rightShape
  split_ifs at leftShape rightShape with leftInside rightInside
  · obtain ⟨leftRest, rfl⟩ := List.isPrefixOf_iff_prefix.mp (Bool.and_eq_true_iff.mp leftInside).1
    obtain ⟨rightRest, rfl⟩ := List.isPrefixOf_iff_prefix.mp (Bool.and_eq_true_iff.mp rightInside).1
    simp_all

/-- No path comes twice, so files stand in strict order. -/
theorem WellFormed.filesWithExtension_pairwise (proper : tree.WellFormed) (place : List String)
    (extension : String) :
    (tree.filesWithExtension place extension).Pairwise fun left right => left.1 < right.1 := by
  have sorted : (tree.filesWithExtension place extension).Pairwise fun left right =>
      (decide ¬right.1 < left.1) = true := by
    apply stableSort_sorted
    · intro left right
      simpa using le_total left.1 right.1
    · intro left middle right
      simpa using le_trans
  have distinct : (tree.filesWithExtension place extension).Pairwise fun left right => left.1 ≠ right.1 := by
    rw [filesWithExtension, (stableSort_perm _ _).pairwise_iff Ne.symm]
    refine (List.pairwise_map.mp (proper.below_nodup place)).filterMap _ ?_
    rintro ⟨first, leftEntry⟩ ⟨second, rightEntry⟩ different left leftShape right rightShape
    cases leftEntry with
    | directory => simp at leftShape
    | file leftBytes =>
      cases rightEntry with
      | directory => simp at rightShape
      | file rightBytes =>
        obtain ⟨-, leftSame⟩ := Option.ite_none_right_eq_some.mp leftShape
        obtain ⟨-, rightSame⟩ := Option.ite_none_right_eq_some.mp rightShape
        rw [← Option.some.inj leftSame, ← Option.some.inj rightSame]
        exact different
  refine (sorted.and distinct).imp fun ⟨before, different⟩ => ?_
  exact lt_of_le_of_ne (not_lt.mp (of_decide_eq_true before)) different

end FileTree

/-- The texts that are read below a directory are the listing of the files with the extension. -/
theorem Surroundings.texts_isListing {around : Surroundings} {directory extension : String} {place : List String}
    (proper : around.tree.WellFormed) (leads : around.tree.resolve? around.start directory = some place)
    (plain : '.' ∉ extension.toList) :
    around.tree.IsListing place (FileTree.HasExtension extension) (around.texts directory extension) where
  mem_iff path text := by
    rw [texts, leads]
    simp only [List.mem_filterMap, Option.map_eq_some_iff, Prod.exists, FileTree.mem_filesWithExtension plain,
      FileTree.mem_below, Text.fromUTF8?_eq_some_iff]
    constructor
    · rintro ⟨spot, bytes, ⟨ends, filled, listed⟩, content, rfl, same⟩
      obtain ⟨rfl, rfl⟩ := Prod.mk.inj same
      refine ⟨ends, ?_⟩
      rw [FileTree.bytes?_eq_some_iff, proper.entry?_eq_some_iff (by simp [filled])]
      exact listed
    · rintro ⟨ends, held⟩
      have filled : path ≠ [] := by
        rintro rfl
        obtain ⟨above, stem, -, empty⟩ := ends
        simp at empty
      rw [FileTree.bytes?_eq_some_iff, proper.entry?_eq_some_iff (by simp [filled])] at held
      exact ⟨path, _, ⟨ends, filled, held⟩, text, rfl, rfl⟩
  ascending := by
    rw [texts, leads]
    refine (proper.filesWithExtension_pairwise place extension).filterMap _ ?_
    rintro first second less left leftShape right rightShape
    obtain ⟨_, -, rfl⟩ := Option.map_eq_some_iff.mp leftShape
    obtain ⟨_, -, rfl⟩ := Option.map_eq_some_iff.mp rightShape
    exact Text.map_bytes_lt less

end ApiAtlas
