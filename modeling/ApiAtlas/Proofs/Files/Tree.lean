import ApiAtlas.Files.Tree
import Mathlib.Data.List.Basic
import Mathlib.Data.List.Infix
import Mathlib.Data.List.Nodup

/-! # File trees as maps from places

What a tree holds is read off through `entry?`, and every operation is described by what it does to
that view. A well-formed tree lists no place twice and has a directory above everything, so nothing
stands below a plain file or below a free place.
-/

namespace ApiAtlas

namespace FileTree

variable {tree : FileTree} {place other : List String} {entry : FileEntry}

@[simp]
theorem entry?_nil (tree : FileTree) : tree.entry? [] = some .directory := by
  simp [FileTree.entry?]

theorem isDirectory_iff : tree.isDirectory place = true ↔ tree.entry? place = some .directory := by
  unfold isDirectory
  split <;> simp_all

theorem bytes?_eq_some_iff {bytes : ByteArray} :
    tree.bytes? place = some bytes ↔ tree.entry? place = some (.file bytes) := by
  unfold bytes?
  split <;> simp_all

theorem mem_of_entry?_eq_some (filled : place ≠ []) (found : tree.entry? place = some entry) :
    (place, entry) ∈ tree.entries := by
  rw [FileTree.entry?, if_neg filled, Option.map_eq_some_iff] at found
  obtain ⟨⟨spot, held⟩, first, rfl⟩ := found
  obtain rfl : spot = place := by simpa using List.find?_some first
  exact List.mem_of_find?_eq_some first

theorem entry?_isSome_of_mem (member : (place, entry) ∈ tree.entries) : (tree.entry? place).isSome := by
  by_cases root : place = []
  · simp [root]
  · rw [FileTree.entry?, if_neg root, Option.isSome_map, List.find?_isSome]
    exact ⟨(place, entry), member, by simp⟩

/-- Selecting places is selecting what a look-up may find. -/
theorem find?_filter_place (keep : List String → Bool) (entries : List (List String × FileEntry))
    (other : List String) :
    (entries.filter fun (spot, _) => keep spot).find? (fun (spot, _) => spot == other) =
      if keep other then entries.find? (fun (spot, _) => spot == other) else none := by
  rw [List.find?_filter]
  cases kept : keep other with
  | true =>
    rw [if_pos rfl]
    refine congrArg (entries.find? ·) (funext fun (spot, _) => ?_)
    by_cases same : spot = other
    · simp [same, kept]
    · simp [same]
  | false =>
    rw [if_neg (by simp), List.find?_eq_none]
    rintro ⟨spot, _⟩ - both
    obtain ⟨inside, same⟩ := of_decide_eq_true both
    obtain rfl : spot = other := eq_of_beq same
    exact absurd (kept.symm.trans inside) (by simp)

theorem entry?_put (filled : place ≠ []) (entry : FileEntry) (other : List String) :
    FileTree.entry? (tree.put place entry) other = if other = place then some entry else tree.entry? other := by
  by_cases root : other = []
  · subst root
    simp [Ne.symm filled]
  · rw [FileTree.entry?, if_neg root, put, List.find?_append, find?_filter_place (· != place)]
    by_cases same : other = place
    · subst same
      simp
    · have different : (place == other) = false := beq_false_of_ne (Ne.symm same)
      simp [same, different, entry?, root]

theorem entry?_remove (filled : place ≠ []) (other : List String) :
    FileTree.entry? (tree.remove place) other = if place <+: other then none else tree.entry? other := by
  by_cases root : other = []
  · subst root
    simp [filled]
  · rw [FileTree.entry?, if_neg root, remove, find?_filter_place (fun spot => !place.isPrefixOf spot), entry?,
      if_neg root]
    by_cases inside : place <+: other
    · rw [if_pos inside, List.isPrefixOf_iff_prefix.mpr inside]
      rfl
    · rw [if_neg inside, Bool.eq_false_iff.mpr (mt List.isPrefixOf_iff_prefix.mp inside)]
      rfl

theorem mem_below {path : List String} :
    (path, entry) ∈ tree.below place ↔ path ≠ [] ∧ (place ++ path, entry) ∈ tree.entries := by
  rw [below, List.mem_filterMap]
  constructor
  · rintro ⟨⟨spot, held⟩, listed, shape⟩
    dsimp only at shape
    split_ifs at shape with inside
    · obtain ⟨starts, other⟩ := Bool.and_eq_true_iff.mp inside
      obtain ⟨rest, rfl⟩ := List.isPrefixOf_iff_prefix.mp starts
      obtain ⟨rfl, rfl⟩ : rest = path ∧ held = entry := by simpa using shape
      exact ⟨by simpa using other, listed⟩
  · rintro ⟨filled, listed⟩
    refine ⟨(place ++ path, entry), listed, ?_⟩
    simp [filled]

/-- Something is in a directory if some place further down is taken. -/
theorem isPopulated_iff : tree.isPopulated place = true ↔
    tree.isDirectory place = true ∧ ∃ path ≠ [], (tree.entry? (place ++ path)).isSome := by
  rw [isPopulated, Bool.and_eq_true, and_congr_right_iff]
  intro _
  rw [Bool.not_eq_true', List.isEmpty_eq_false_iff_exists_mem, Prod.exists]
  refine exists_congr fun path => ?_
  simp only [mem_below]
  constructor
  · rintro ⟨entry, filled, listed⟩
    exact ⟨filled, entry?_isSome_of_mem listed⟩
  · rintro ⟨filled, taken⟩
    obtain ⟨entry, found⟩ := Option.isSome_iff_exists.mp taken
    exact ⟨entry, filled, mem_of_entry?_eq_some (by simp [filled]) found⟩

theorem entry?_eq_some_iff_of_nodup (nodup : (tree.entries.map Prod.fst).Nodup) (filled : place ≠ []) :
    tree.entry? place = some entry ↔ (place, entry) ∈ tree.entries := by
  refine ⟨mem_of_entry?_eq_some filled, fun member => ?_⟩
  obtain ⟨found, present⟩ := Option.isSome_iff_exists.mp (entry?_isSome_of_mem member)
  have listed := mem_of_entry?_eq_some filled present
  have same : (place, found) = (place, entry) := List.inj_on_of_nodup_map nodup listed member rfl
  rw [present, (Prod.mk.inj same).2]

section View

variable {second : FileTree} (same : ∀ place, tree.entry? place = second.entry? place)

include same

theorem isDirectory_congr : tree.isDirectory = second.isDirectory := by
  funext place
  rw [isDirectory, isDirectory, same]

theorem bytes?_congr : tree.bytes? = second.bytes? := by
  funext place
  rw [bytes?, bytes?, same]

theorem resolve?_congr : tree.resolve? = second.resolve? := by
  have steps : tree.step? = second.step? := by
    funext place piece
    simp only [step?, isDirectory_congr same, same]
  funext start path
  rw [resolve?, resolve?, steps]

theorem isPopulated_congr : tree.isPopulated = second.isPopulated := by
  funext place
  rw [Bool.eq_iff_iff, isPopulated_iff, isPopulated_iff, isDirectory_congr same]
  simp only [same]

end View

/-- No place is listed twice, and what stands above a place is a directory. -/
structure WellFormed (tree : FileTree) : Prop where
  nodup : (tree.entries.map Prod.fst).Nodup
  closed : ∀ pair ∈ tree.entries, tree.isDirectory pair.1.dropLast = true

namespace WellFormed

theorem entry?_eq_some_iff (proper : tree.WellFormed) (filled : place ≠ []) :
    tree.entry? place = some entry ↔ (place, entry) ∈ tree.entries :=
  entry?_eq_some_iff_of_nodup proper.nodup filled

theorem entry?_dropLast (proper : tree.WellFormed) (taken : (tree.entry? place).isSome) :
    tree.entry? place.dropLast = some .directory := by
  by_cases root : place = []
  · simp [root]
  · obtain ⟨entry, found⟩ := Option.isSome_iff_exists.mp taken
    exact isDirectory_iff.mp (proper.closed _ (mem_of_entry?_eq_some root found))

theorem of_closed (nodup : (tree.entries.map Prod.fst).Nodup)
    (closed : ∀ place, (tree.entry? place).isSome → tree.entry? place.dropLast = some .directory) :
    tree.WellFormed :=
  ⟨nodup, fun _ listed => isDirectory_iff.mpr (closed _ (entry?_isSome_of_mem listed))⟩

/-- Everything above a place that is taken is a directory. -/
theorem isDirectory_of_taken (proper : tree.WellFormed) {path : List String} (filled : path ≠ [])
    (taken : (tree.entry? (place ++ path)).isSome) : tree.entry? place = some .directory := by
  induction path using List.reverseRecOn with
  | nil => contradiction
  | append_singleton path name ih =>
    have above := proper.entry?_dropLast taken
    rw [← List.append_assoc, List.dropLast_concat] at above
    by_cases last : path = []
    · simpa [last] using above
    · exact ih last (by simp [above])

theorem free_below (proper : tree.WellFormed) (free : tree.entry? place ≠ some .directory)
    {path : List String} (filled : path ≠ []) : tree.entry? (place ++ path) = none := by
  by_contra taken
  exact free (proper.isDirectory_of_taken filled (Option.isSome_iff_ne_none.mpr taken))

/-- The order in which a tree has its places does not matter. -/
theorem of_perm {second : FileTree} (proper : tree.WellFormed) (perm : second.entries.Perm tree.entries) :
    second.WellFormed ∧ ∀ place, second.entry? place = tree.entry? place := by
  have nodup : (second.entries.map Prod.fst).Nodup := (perm.map Prod.fst).nodup_iff.mpr proper.nodup
  have same (place : List String) : second.entry? place = tree.entry? place := by
    by_cases root : place = []
    · simp [root]
    · refine Option.ext fun entry => ?_
      rw [entry?_eq_some_iff_of_nodup nodup root, proper.entry?_eq_some_iff root, perm.mem_iff]
  refine ⟨of_closed nodup fun place taken => ?_, same⟩
  rw [same] at taken ⊢
  exact proper.entry?_dropLast taken

/-- What is put into a directory leaves a tree, as long as no directory gives way to a file. -/
theorem put (proper : tree.WellFormed) (filled : place ≠ [])
    (above : tree.entry? place.dropLast = some .directory)
    (fits : tree.entry? place = some .directory → entry = .directory) : (tree.put place entry).WellFormed := by
  apply of_closed
  · have others : ((tree.entries.filter fun (spot, _) => spot != place).map Prod.fst).Nodup :=
      proper.nodup.sublist (List.filter_sublist.map Prod.fst)
    rw [FileTree.put, List.map_append, List.map_singleton, List.nodup_append]
    refine ⟨others, List.nodup_singleton _, ?_⟩
    rintro spot listed last single rfl
    obtain ⟨pair, member, rfl⟩ := List.mem_map.mp listed
    simp_all
  · intro other taken
    rw [entry?_put filled] at taken ⊢
    by_cases same : other = place
    · subst same
      have shorter : other.dropLast ≠ other := by
        intro equal
        have length := congrArg List.length equal
        have := List.length_pos_iff.mpr filled
        rw [List.length_dropLast] at length
        omega
      rw [if_neg shorter, above]
    · rw [if_neg same] at taken
      have directory := proper.entry?_dropLast taken
      split_ifs with here
      · rw [fits (here ▸ directory)]
      · exact directory

theorem remove (proper : tree.WellFormed) (filled : place ≠ []) : (tree.remove place).WellFormed := by
  apply of_closed
  · exact proper.nodup.sublist (List.filter_sublist.map Prod.fst)
  · intro other taken
    rw [entry?_remove filled] at taken ⊢
    by_cases inside : place <+: other
    · simp [inside] at taken
    · rw [if_neg inside] at taken
      rw [if_neg fun starts => inside (starts.trans (List.dropLast_prefix other))]
      exact proper.entry?_dropLast taken

end WellFormed

/-- The ways on from a directory: the next name, or further down. -/
theorem eq_or_longer_of_isPrefix {done names : List String} {name : String}
    (starts : place <+: done ++ name :: names) (longer : done.length < place.length) :
    place = done ++ [name] ∨ (done ++ [name]).length < place.length := by
  rcases Nat.lt_or_ge (done ++ [name]).length place.length with further | here
  · exact .inr further
  · have whole : done ++ name :: names = done ++ [name] ++ names := by simp
    rw [whole] at starts
    have inside := List.prefix_of_prefix_length_le starts (List.prefix_append _ names) here
    refine .inl (inside.eq_of_length ?_)
    rw [List.length_append, List.length_singleton] at here ⊢
    omega

theorem makeDirectories_nil {made : FileTree} {done : List String}
    (success : tree.makeDirectories done [] = some made) : made = tree := by
  rw [makeDirectories] at success
  simpa [eq_comm] using (Option.ite_none_right_eq_some.mp success).2

/-- Making directories takes one step after the other: a directory is passed, a free place becomes one. -/
theorem makeDirectories_cons {made : FileTree} {done names : List String} {name : String}
    (success : tree.makeDirectories done (name :: names) = some made) :
    ∃ next, next.makeDirectories (done ++ [name]) names = some made ∧
      next.entry? (done ++ [name]) = some .directory ∧
      (next = tree ∨ tree.entry? (done ++ [name]) = none ∧ next = tree.put (done ++ [name]) .directory) := by
  rw [makeDirectories] at success
  cases present : tree.entry? (done ++ [name]) with
  | none =>
    simp only [present] at success
    exact ⟨_, success, by rw [entry?_put (by simp), if_pos rfl], .inr ⟨rfl, rfl⟩⟩
  | some entry =>
    cases entry with
    | directory =>
      simp only [present] at success
      exact ⟨tree, success, present, .inl rfl⟩
    | file bytes => simp [present] at success

/-- Making directories adds directories where nothing was, on the way to the last of them. -/
theorem entry?_makeDirectories {made : FileTree} {done names : List String}
    (success : tree.makeDirectories done names = some made) (place : List String) :
    made.entry? place =
      if done.length < place.length ∧ place <+: done ++ names ∧ tree.entry? place = none then some .directory
      else tree.entry? place := by
  induction names generalizing tree done with
  | nil =>
    rw [makeDirectories_nil success, if_neg]
    rintro ⟨longer, starts, -⟩
    have := starts.length_le
    rw [List.append_nil] at this
    omega
  | cons name names ih =>
    obtain ⟨next, success, here, rest⟩ := makeDirectories_cons success
    have whole : done ++ name :: names = done ++ [name] ++ names := by simp
    rw [ih success]
    by_cases spot : place = done ++ [name]
    · subst spot
      rw [if_neg (by simp), here]
      rcases rest with rfl | ⟨free, -⟩
      · rw [if_neg (by simp [here]), here]
      · rw [if_pos ⟨by simp, by simp, free⟩]
    · have same : next.entry? place = tree.entry? place := by
        rcases rest with rfl | ⟨-, rfl⟩
        · rfl
        · rw [entry?_put (by simp), if_neg spot]
      have further : place <+: done ++ name :: names →
          ((done ++ [name]).length < place.length ↔ done.length < place.length) := by
        intro starts
        refine ⟨fun longer => ?_, fun longer => (eq_or_longer_of_isPrefix starts longer).resolve_left spot⟩
        rw [List.length_append] at longer
        omega
      rw [same, ← whole]
      by_cases starts : place <+: done ++ name :: names
      · simp only [further starts]
      · simp only [starts, false_and, and_false]

/-- Afterwards all places on the way are directories. -/
theorem entry?_makeDirectories_of_isPrefix {made : FileTree} {done names : List String}
    (success : tree.makeDirectories done names = some made) (longer : done.length < place.length)
    (starts : place <+: done ++ names) : made.entry? place = some .directory := by
  induction names generalizing tree done with
  | nil =>
    have := starts.length_le
    rw [List.append_nil] at this
    omega
  | cons name names ih =>
    obtain ⟨next, success, here, -⟩ := makeDirectories_cons success
    rcases eq_or_longer_of_isPrefix starts longer with rfl | further
    · rw [entry?_makeDirectories success, if_neg (by simp), here]
    · exact ih success further (by simpa using starts)

theorem WellFormed.makeDirectories {made : FileTree} {done names : List String} (proper : tree.WellFormed)
    (above : tree.entry? done = some .directory) (success : tree.makeDirectories done names = some made) :
    made.WellFormed := by
  induction names generalizing tree done with
  | nil => exact makeDirectories_nil success ▸ proper
  | cons name names ih =>
    obtain ⟨next, success, here, rest⟩ := makeDirectories_cons success
    refine ih ?_ here success
    rcases rest with rfl | ⟨free, rfl⟩
    · exact proper
    · exact proper.put (by simp) (by simpa using above) (fun _ => rfl)

end FileTree

end ApiAtlas
