import ApiAtlas.Files.Archive
import ApiAtlas.Proofs.Files.Tree

/-! # Extraction, entry by entry

Extraction goes through the entries of an archive one after the other. What one entry does is said
once, through `entry?`: it takes its own place and makes the directories above it. From that follows
what a run of entries does: which places are taken afterwards, and what the files hold.
-/

namespace ApiAtlas

namespace PathComponent

/-- The name of a component that is one. -/
def name? : PathComponent → Option String
  | normal name => some name
  | _ => none

end PathComponent

namespace Archive

/-- What is left of a name without its first component. -/
def remainder (name : String) : List PathComponent :=
  (Path.components name).drop 1

/-- An entry with this name belongs to a path below the destination: what is left of the name lies among
the headers or the guides and nowhere leads upwards. -/
structure BelongsAt (name : String) (path : List String) : Prop where
  documented : [.normal "include"] <+: remainder name ∨ [.normal "docs", .normal "topics"] <+: remainder name
  downward : .parent ∉ remainder name
  path_eq : path = (remainder name).filterMap PathComponent.name?

theorem plain_of_mem_pieces {name : String} {component : PathComponent}
    (member : component ∈ (Path.pieces name).filterMap Path.component?) :
    component = .parent ∨ ∃ plain, component = .normal plain := by
  obtain ⟨piece, -, found⟩ := List.mem_filterMap.mp member
  unfold Path.component? at found
  split_ifs at found with nothing upwards
  · exact .inl (Option.some.inj found).symm
  · exact .inr ⟨piece, (Option.some.inj found).symm⟩

/-- Only the first component can be the root or the current directory. -/
theorem plain_of_mem_remainder {name : String} {component : PathComponent}
    (member : component ∈ remainder name) : component = .parent ∨ ∃ plain, component = .normal plain := by
  apply @plain_of_mem_pieces name
  rw [remainder, Path.components, List.drop_append] at member
  rcases List.mem_append.mp member with first | later
  · unfold Path.leading at first
    split_ifs at first <;> simp at first
  · exact List.mem_of_mem_drop later

theorem plainNames?_eq_some_iff {components : List PathComponent} {names : List String} :
    plainNames? components = some names ↔ components = names.map .normal := by
  induction components generalizing names with
  | nil => simp [plainNames?, eq_comm]
  | cons component rest ih =>
    cases component with
    | normal name =>
      rw [plainNames?, Option.map_eq_some_iff]
      cases names <;> simp [ih, and_comm]
    | _ => cases names <;> simp [plainNames?]

theorem map_normal_filterMap_name? {components : List PathComponent}
    (plain : ∀ component ∈ components, ∃ name, component = .normal name) :
    (components.filterMap PathComponent.name?).map .normal = components := by
  induction components with
  | nil => rfl
  | cons component rest ih =>
    rw [List.forall_mem_cons] at plain
    obtain ⟨⟨name, rfl⟩, others⟩ := plain
    rw [List.filterMap_cons_some (show PathComponent.name? (.normal name) = some name from rfl), List.map_cons,
      ih others]

theorem filterMap_name?_map_normal (names : List String) :
    (names.map .normal).filterMap PathComponent.name? = names := by
  rw [List.filterMap_map]
  exact List.filterMap_some

theorem BelongsAt.documented_path {name : String} {path : List String} (belongs : BelongsAt name path) :
    ["include"] <+: path ∨ ["docs", "topics"] <+: path := by
  rw [belongs.path_eq]
  exact belongs.documented.imp (·.filterMap PathComponent.name?) (·.filterMap PathComponent.name?)

theorem keptPath?_eq_some_iff {name : String} {path : List String} :
    keptPath? name = some path ↔ BelongsAt name path := by
  rw [keptPath?, Option.filter_eq_some_iff, ← remainder, plainNames?_eq_some_iff, Bool.or_eq_true, isHeaderPath,
    isGuidePath, List.isPrefixOf_iff_prefix, List.isPrefixOf_iff_prefix]
  constructor
  · rintro ⟨shape, documented⟩
    refine ⟨?_, by simp [shape], by rw [shape, filterMap_name?_map_normal]⟩
    rw [shape]
    exact documented.imp (·.map _) (·.map _)
  · intro belongs
    refine ⟨?_, belongs.documented_path⟩
    rw [belongs.path_eq, map_normal_filterMap_name?]
    intro component member
    refine (plain_of_mem_remainder member).resolve_left ?_
    rintro rfl
    exact belongs.downward member

theorem keptPath?_cases (name : String) :
    (keptPath? name = none ∧ ∀ path, ¬BelongsAt name path) ∨
      ∃ path, keptPath? name = some path ∧ BelongsAt name path := by
  cases kept : keptPath? name with
  | none =>
    refine .inl ⟨rfl, fun path belongs => ?_⟩
    rw [keptPath?_eq_some_iff.mpr belongs] at kept
    contradiction
  | some path => exact .inr ⟨path, rfl, keptPath?_eq_some_iff.mp kept⟩

theorem BelongsAt.ne_nil {name : String} {path : List String} (belongs : BelongsAt name path) : path ≠ [] := by
  rintro rfl
  simpa using belongs.documented_path

theorem BelongsAt.unique {name : String} {path other : List String} (belongs : BelongsAt name path)
    (again : BelongsAt name other) : path = other :=
  belongs.path_eq.trans again.path_eq.symm

theorem isHeaderPath_iff {path : List String} : isHeaderPath path = true ↔ ["include"] <+: path :=
  List.isPrefixOf_iff_prefix

end Archive

/-- What an entry leaves at its place. -/
def ArchiveEntry.stored (entry : ArchiveEntry) : FileEntry :=
  if entry.makesDirectory then .directory else .file entry.content

/-- An entry is a file that belongs at a path. -/
def ArchiveEntry.Delivers (entry : ArchiveEntry) (path : List String) : Prop :=
  entry.makesDirectory = false ∧ Archive.BelongsAt entry.name path

namespace Archive

variable {tree next after : FileTree} {dest place path : List String} {entry : ArchiveEntry}
  {entries : List ArchiveEntry}

/-- An entry is written to a free place or, being a file, over a file; a directory may be there already. -/
theorem unpack?_cases (success : unpack? tree place entry = some after) :
    (after = tree ∧ tree.entry? place = some .directory ∧ entry.stored = .directory) ∨
    (after = tree.put place entry.stored ∧ tree.entry? place ≠ some .directory ∧
      (entry.makesDirectory = true → tree.entry? place = none)) := by
  unfold unpack? at success
  unfold ArchiveEntry.stored
  split at success <;> rename_i present kind <;> cases success <;> simp [present, kind]

theorem entry?_unpack? (filled : place ≠ []) (success : unpack? tree place entry = some after)
    (other : List String) :
    after.entry? other = if other = place then some entry.stored else tree.entry? other := by
  rcases unpack?_cases success with ⟨rfl, present, kind⟩ | ⟨rfl, -, -⟩
  · split_ifs with same
    · rw [same, present, kind]
    · rfl
  · rw [FileTree.entry?_put filled]

theorem unpack?_wellFormed (proper : tree.WellFormed) (filled : place ≠ [])
    (above : tree.entry? place.dropLast = some .directory) (success : unpack? tree place entry = some after) :
    after.WellFormed := by
  rcases unpack?_cases success with ⟨rfl, -, -⟩ | ⟨rfl, other, -⟩
  · exact proper
  · exact proper.put filled above fun directory => absurd directory other

theorem isSome_of_unpack?_eq_none (failure : unpack? tree place entry = none) : (tree.entry? place).isSome := by
  unfold unpack? at failure
  split at failure <;> simp_all

/-- Extract one entry, and nothing if it is not kept. -/
def extractOne? (dest : List String) (tree : FileTree) (entry : ArchiveEntry) : Option FileTree :=
  match keptPath? entry.name with
  | none => some tree
  | some path =>
    (tree.makeDirectories [] (dest ++ path.dropLast)).bind fun made => unpack? made (dest ++ path) entry

/-- Extract entries one after the other, as long as each of them can be extracted. -/
def extractAll? (dest : List String) : FileTree → List ArchiveEntry → Option FileTree
  | tree, [] => some tree
  | tree, entry :: entries =>
    (extractOne? dest tree entry).bind fun next => extractAll? dest next entries

/-- An entry that is kept is extracted in two steps. -/
theorem extractOne?_steps (success : extractOne? dest tree entry = some next) :
    (keptPath? entry.name = none ∧ (∀ path, ¬BelongsAt entry.name path) ∧ next = tree) ∨
    ∃ path made, keptPath? entry.name = some path ∧ BelongsAt entry.name path ∧
      tree.makeDirectories [] (dest ++ path.dropLast) = some made ∧
      unpack? made (dest ++ path) entry = some next := by
  unfold extractOne? at success
  rcases keptPath?_cases entry.name with ⟨kept, passed⟩ | ⟨path, kept, belongs⟩
  · exact .inl ⟨kept, passed, by simpa [kept, eq_comm] using success⟩
  · simp only [kept, Option.bind_eq_some_iff] at success
    obtain ⟨made, directories, written⟩ := success
    exact .inr ⟨path, made, kept, belongs, directories, written⟩

/-- The directories above a path are made where they are missing, and the path itself is left alone. -/
theorem entry?_parents {made : FileTree} (success : tree.makeDirectories [] (dest ++ path.dropLast) = some made)
    (filled : path ≠ []) (place : List String) :
    made.entry? place =
      if place = dest ++ path then tree.entry? place
      else if place <+: dest ++ path ∧ tree.entry? place = none then some .directory
      else tree.entry? place := by
  obtain ⟨front, name, rfl⟩ := (List.eq_nil_or_concat path).resolve_left filled
  rw [List.concat_eq_append] at success ⊢
  rw [List.dropLast_concat] at success
  rw [FileTree.entry?_makeDirectories success, List.nil_append, ← List.append_assoc]
  by_cases here : place = dest ++ front ++ [name]
  · have beyond : ¬place <+: dest ++ front := by
      intro starts
      have := starts.length_le
      simp only [here, List.length_append, List.length_singleton] at this
      omega
    rw [if_neg fun missing => beyond missing.2.1, if_pos here]
  · have root : tree.entry? place = none → 0 < place.length := by
      intro free
      rw [List.length_pos_iff]
      rintro rfl
      simp at free
    have missing : (0 < place.length ∧ place <+: dest ++ front ∧ tree.entry? place = none) ↔
        place <+: dest ++ front ++ [name] ∧ tree.entry? place = none := by
      rw [List.prefix_concat_iff, or_iff_right here]
      exact and_iff_right_of_imp fun parts => root parts.2
    rw [if_neg here, List.length_nil]
    simp only [missing]

/-- Nothing is missing above a path that is taken. -/
theorem entry?_parents_of_taken {made : FileTree} (proper : tree.WellFormed)
    (success : tree.makeDirectories [] (dest ++ path.dropLast) = some made) (filled : path ≠ [])
    (taken : (tree.entry? (dest ++ path)).isSome) (place : List String) :
    made.entry? place = tree.entry? place := by
  rw [entry?_parents success filled]
  split_ifs with here missing
  · rfl
  · obtain ⟨⟨rest, further⟩, free⟩ := missing
    have more : rest ≠ [] := by
      rintro rfl
      exact here (by simpa using further)
    rw [proper.isDirectory_of_taken more (further ▸ taken)] at free
    contradiction
  · rfl

/-- What one entry does to a tree: nothing if it is not kept, and otherwise it takes its place and makes
the directories that are missing above it. -/
theorem extractOne?_cases (success : extractOne? dest tree entry = some next) :
    ((∀ path, ¬BelongsAt entry.name path) ∧ next = tree) ∨
    ∃ path, BelongsAt entry.name path ∧
      (entry.makesDirectory = true → tree.bytes? (dest ++ path) = none) ∧
      ∀ place, next.entry? place =
        if place = dest ++ path then some entry.stored
        else if place <+: dest ++ path ∧ tree.entry? place = none then some .directory
        else tree.entry? place := by
  rcases extractOne?_steps success with ⟨-, passed, rfl⟩ | ⟨path, made, -, belongs, directories, written⟩
  · exact .inl ⟨passed, rfl⟩
  · have above := entry?_parents directories belongs.ne_nil
    have same : made.entry? (dest ++ path) = tree.entry? (dest ++ path) := by rw [above, if_pos rfl]
    refine .inr ⟨path, belongs, fun kind => ?_, fun place => ?_⟩
    · rcases unpack?_cases written with ⟨-, present, -⟩ | ⟨-, -, free⟩
      · rw [FileTree.bytes?, ← same, present]
      · rw [FileTree.bytes?, ← same, free kind]
    · rw [entry?_unpack? (by simp [belongs.ne_nil]) written]
      split_ifs with here missing
      · rfl
      · rw [above, if_neg here, if_pos missing]
      · rw [above, if_neg here, if_neg missing]

theorem extractOne?_wellFormed (proper : tree.WellFormed) (success : extractOne? dest tree entry = some next) :
    next.WellFormed := by
  rcases extractOne?_steps success with ⟨-, -, rfl⟩ | ⟨path, made, -, belongs, directories, written⟩
  · exact proper
  · have filled := belongs.ne_nil
    refine unpack?_wellFormed (proper.makeDirectories (by simp) directories) (by simp [filled]) ?_ written
    rw [List.dropLast_append_of_ne_nil filled]
    by_cases root : dest ++ path.dropLast = []
    · simp [root]
    · exact FileTree.entry?_makeDirectories_of_isPrefix directories (List.length_pos_iff.mpr root) (by simp)

theorem isSome_extractOne? (success : extractOne? dest tree entry = some next) (place : List String) :
    (next.entry? place).isSome ↔
      (tree.entry? place).isSome ∨ ∃ path, BelongsAt entry.name path ∧ place <+: dest ++ path := by
  rcases extractOne?_cases success with ⟨passed, rfl⟩ | ⟨path, belongs, -, effect⟩
  · simp [passed]
  · have only : (∃ path, BelongsAt entry.name path ∧ place <+: dest ++ path) ↔ place <+: dest ++ path := by
      refine ⟨?_, fun starts => ⟨path, belongs, starts⟩⟩
      rintro ⟨other, again, starts⟩
      rwa [belongs.unique again]
    rw [only, effect]
    split_ifs with here missing
    · simp [here]
    · simp [missing.1]
    · refine ⟨.inl, fun either => either.elim id fun starts => ?_⟩
      exact Option.isSome_iff_ne_none.mpr fun free => missing ⟨starts, free⟩

theorem bytes?_extractOne? (success : extractOne? dest tree entry = some next) (path : List String)
    (bytes : ByteArray) :
    next.bytes? (dest ++ path) = some bytes ↔
      entry.Delivers path ∧ entry.content = bytes ∨
      ¬entry.Delivers path ∧ tree.bytes? (dest ++ path) = some bytes := by
  rcases extractOne?_cases success with ⟨passed, rfl⟩ | ⟨own, belongs, replaced, effect⟩
  · simp [ArchiveEntry.Delivers, passed]
  · have delivers : entry.Delivers path ↔ entry.makesDirectory = false ∧ path = own :=
      and_congr_right fun _ => ⟨fun again => again.unique belongs, fun same => same ▸ belongs⟩
    rw [FileTree.bytes?_eq_some_iff, effect, delivers]
    by_cases same : path = own
    · subst same
      cases kind : entry.makesDirectory with
      | true => simp [ArchiveEntry.stored, kind, replaced kind]
      | false => simp [ArchiveEntry.stored, kind]
    · rw [if_neg (by simpa using same), FileTree.bytes?_eq_some_iff]
      split_ifs with missing
      · simp [missing.2, same]
      · simp [same]

/-- The last of the entries for a path has this content. -/
def LastDelivery (entries : List ArchiveEntry) (path : List String) (bytes : ByteArray) : Prop :=
  ∃ earlier entry later, entries = earlier ++ entry :: later ∧ entry.Delivers path ∧ entry.content = bytes ∧
    ∀ other ∈ later, ¬other.Delivers path

theorem lastDelivery_cons {bytes : ByteArray} : LastDelivery (entry :: entries) path bytes ↔
    LastDelivery entries path bytes ∨
      (∀ other ∈ entries, ¬other.Delivers path) ∧ entry.Delivers path ∧ entry.content = bytes := by
  constructor
  · rintro ⟨earlier, last, later, split, delivers, content, final⟩
    cases earlier with
    | nil =>
      obtain ⟨rfl, rfl⟩ : entry = last ∧ entries = later := by simpa using split
      exact .inr ⟨final, delivers, content⟩
    | cons first rest =>
      obtain ⟨rfl, rfl⟩ : entry = first ∧ entries = rest ++ last :: later := by simpa using split
      exact .inl ⟨rest, last, later, rfl, delivers, content, final⟩
  · rintro (⟨earlier, last, later, rfl, delivers, content, final⟩ | ⟨final, delivers, content⟩)
    · exact ⟨entry :: earlier, last, later, rfl, delivers, content, final⟩
    · exact ⟨[], entry, entries, rfl, delivers, content, final⟩

section Run

variable (success : extractAll? dest tree entries = some after)

include success

theorem extractAll?_wellFormed (proper : tree.WellFormed) : after.WellFormed := by
  induction entries generalizing tree with
  | nil =>
    obtain rfl : tree = after := Option.some.inj success
    exact proper
  | cons entry rest ih =>
    obtain ⟨next, first, others⟩ := Option.bind_eq_some_iff.mp success
    exact ih others (extractOne?_wellFormed proper first)

/-- The places that are taken after a run: those that were, and all on the way to an entry's place. -/
theorem isSome_extractAll? (place : List String) :
    (after.entry? place).isSome ↔ (tree.entry? place).isSome ∨
      ∃ entry ∈ entries, ∃ path, BelongsAt entry.name path ∧ place <+: dest ++ path := by
  induction entries generalizing tree with
  | nil =>
    obtain rfl : tree = after := Option.some.inj success
    simp
  | cons entry rest ih =>
    obtain ⟨next, first, others⟩ := Option.bind_eq_some_iff.mp success
    rw [ih others, isSome_extractOne? first, List.exists_mem_cons_iff, or_assoc]

/-- A file holds after a run what the last entry for it brought, or what it held if there was none. -/
theorem bytes?_extractAll? (path : List String) (bytes : ByteArray) :
    after.bytes? (dest ++ path) = some bytes ↔ LastDelivery entries path bytes ∨
      (∀ entry ∈ entries, ¬entry.Delivers path) ∧ tree.bytes? (dest ++ path) = some bytes := by
  induction entries generalizing tree with
  | nil =>
    obtain rfl : tree = after := Option.some.inj success
    simp [LastDelivery]
  | cons entry rest ih =>
    obtain ⟨next, first, others⟩ := Option.bind_eq_some_iff.mp success
    rw [ih others, bytes?_extractOne? first, lastDelivery_cons, List.forall_mem_cons]
    tauto

end Run

theorem extractAll?_append (first second : List ArchiveEntry) :
    extractAll? dest tree (first ++ second) =
      (extractAll? dest tree first).bind fun middle => extractAll? dest middle second := by
  induction first generalizing tree with
  | nil => rfl
  | cons entry rest ih => simp only [List.cons_append, extractAll?, ih, Option.bind_assoc]

/-- An entry belongs among the headers. -/
def IsHeader (entry : ArchiveEntry) : Prop :=
  ∃ path, BelongsAt entry.name path ∧ ["include"] <+: path

theorem extractEntries_cons_of_eq_some (success : extractOne? dest tree entry = some next) (shown : String)
    (found : Bool) (entries : List ArchiveEntry) :
    ∃ header : Bool, (header = true ↔ IsHeader entry) ∧
      extractEntries dest shown tree found (entry :: entries) =
        extractEntries dest shown next (found || header) entries := by
  rw [extractEntries]
  rcases extractOne?_steps success with ⟨kept, passed, rfl⟩ | ⟨path, made, kept, belongs, directories, written⟩
  · refine ⟨false, ?_, by simp [kept]⟩
    simp only [Bool.false_eq_true, false_iff]
    rintro ⟨path, belongs, -⟩
    exact passed path belongs
  · refine ⟨isHeaderPath path, ?_, by simp only [kept, directories, written]⟩
    rw [isHeaderPath_iff]
    refine ⟨fun inside => ⟨path, belongs, inside⟩, ?_⟩
    rintro ⟨other, again, inside⟩
    rwa [belongs.unique again]

/-- An entry that cannot be extracted ends the extraction, and changes nothing that can be seen. -/
theorem extractEntries_cons_of_eq_none (proper : tree.WellFormed) (failure : extractOne? dest tree entry = none)
    (shown : String) (found : Bool) (entries : List ArchiveEntry) : ∃ stopped error,
      extractEntries dest shown tree found (entry :: entries) = (stopped, .error error) ∧
      ∀ place, stopped.entry? place = tree.entry? place := by
  unfold extractOne? at failure
  rw [extractEntries]
  cases kept : keptPath? entry.name with
  | none => simp [kept] at failure
  | some path =>
    have filled := (keptPath?_eq_some_iff.mp kept).ne_nil
    simp only [kept, Option.bind_eq_none_iff] at failure
    cases directories : tree.makeDirectories [] (dest ++ path.dropLast) with
    | none => exact ⟨tree, .cannotCreate (shownParent shown path), by simp only [directories], fun _ => rfl⟩
    | some made =>
      have blocked := failure made directories
      refine ⟨made, .cannotExtract (relativeText path), by simp only [directories, blocked], fun place => ?_⟩
      apply entry?_parents_of_taken proper directories filled
      have taken := isSome_of_unpack?_eq_none blocked
      rwa [entry?_parents directories filled, if_pos rfl] at taken

theorem extractEntries_of_extractAll? (success : extractAll? dest tree entries = some after) (shown : String)
    (found : Bool) :
    ∃ all : Bool, extractEntries dest shown tree found entries = (after, .ok all) ∧
      (all = true ↔ found = true ∨ ∃ entry ∈ entries, IsHeader entry) := by
  induction entries generalizing tree found with
  | nil =>
    obtain rfl : tree = after := Option.some.inj success
    exact ⟨found, rfl, by simp⟩
  | cons entry rest ih =>
    obtain ⟨next, first, others⟩ := Option.bind_eq_some_iff.mp success
    obtain ⟨header, kind, step⟩ := extractEntries_cons_of_eq_some first shown found rest
    obtain ⟨all, ran, covers⟩ := ih others (found || header)
    refine ⟨all, step.trans ran, ?_⟩
    rw [covers, Bool.or_eq_true, kind, List.exists_mem_cons_iff, or_assoc]

/-- Where a run of entries ends early: before the first entry that cannot be extracted. -/
theorem extractEntries_of_extractAll?_eq_none (proper : tree.WellFormed)
    (failure : extractAll? dest tree entries = none) (shown : String) (found : Bool) : ∃ stopped error,
      extractEntries dest shown tree found entries = (stopped, .error error) ∧
      ∃ done entry rest before, entries = done ++ entry :: rest ∧ extractAll? dest tree done = some before ∧
        extractOne? dest before entry = none ∧ ∀ place, stopped.entry? place = before.entry? place := by
  induction entries generalizing tree found with
  | nil => simp [extractAll?] at failure
  | cons entry rest ih =>
    cases first : extractOne? dest tree entry with
    | none =>
      obtain ⟨stopped, error, ran, same⟩ := extractEntries_cons_of_eq_none proper first shown found rest
      exact ⟨stopped, error, ran, [], entry, rest, tree, rfl, rfl, first, same⟩
    | some next =>
      have later : extractAll? dest next rest = none := by simpa [extractAll?, first] using failure
      obtain ⟨header, -, step⟩ := extractEntries_cons_of_eq_some first shown found rest
      obtain ⟨stopped, error, ran, done, last, others, before, rfl, reached, blocked, same⟩ :=
        ih (extractOne?_wellFormed proper first) later (found || header)
      refine ⟨stopped, error, step.trans ran, entry :: done, last, others, before, rfl, ?_, blocked, same⟩
      rw [extractAll?, first]
      exact reached

section Removal

variable {stale : List (List String × String)}

/-- A plain file stops the removal; otherwise a place is freed with all below it. -/
theorem removeStale_cons (proper : tree.WellFormed) (filled : place ≠ []) (text : String) :
    (∃ bytes, tree.entry? place = some (.file bytes) ∧
      ∀ rest, removeStale tree ((place, text) :: rest) = (tree, .error (.cannotRemove text))) ∨
    ∃ next, next.WellFormed ∧ (∀ rest, removeStale tree ((place, text) :: rest) = removeStale next rest) ∧
      ∀ other, next.entry? other = if place <+: other then none else tree.entry? other := by
  cases present : tree.entry? place with
  | none =>
    refine .inr ⟨tree, proper, fun rest => by rw [removeStale, present], fun other => ?_⟩
    split_ifs with inside
    · obtain ⟨path, rfl⟩ := inside
      by_cases last : path = []
      · simpa [last] using present
      · exact proper.free_below (by simp [present]) last
    · rfl
  | some held =>
    cases held with
    | file bytes => exact .inl ⟨bytes, rfl, fun rest => by rw [removeStale, present]⟩
    | directory =>
      exact .inr ⟨tree.remove place, proper.remove filled, fun rest => by rw [removeStale, present],
        FileTree.entry?_remove filled⟩

/-- Once everything is removed, the places are free with all below them, and nothing else has changed. -/
theorem removeStale_eq_ok (proper : tree.WellFormed) (rooted : ∀ pair ∈ stale, pair.1 ≠ [])
    (success : removeStale tree stale = (after, .ok ())) :
    after.WellFormed ∧ (∀ pair ∈ stale, ∀ place, pair.1 <+: place → after.entry? place = none) ∧
    ∀ place, (∀ pair ∈ stale, ¬pair.1 <+: place) → after.entry? place = tree.entry? place := by
  induction stale generalizing tree with
  | nil =>
    obtain rfl : tree = after := by simpa [removeStale] using success
    exact ⟨proper, by simp, fun _ _ => rfl⟩
  | cons pair rest ih =>
    obtain ⟨spot, text⟩ := pair
    rw [List.forall_mem_cons] at rooted
    rcases removeStale_cons proper rooted.1 text with ⟨bytes, -, stops⟩ | ⟨next, sound, goes, freed⟩
    · rw [stops] at success
      simp at success
    · rw [goes] at success
      obtain ⟨whole, free, kept⟩ := ih sound rooted.2 success
      refine ⟨whole, ?_, fun place outside => ?_⟩
      · rw [List.forall_mem_cons]
        refine ⟨fun place inside => ?_, free⟩
        by_cases again : ∃ pair ∈ rest, pair.1 <+: place
        · obtain ⟨pair, member, starts⟩ := again
          exact free pair member place starts
        · rw [kept place fun pair member starts => again ⟨pair, member, starts⟩, freed, if_pos inside]
      · rw [List.forall_mem_cons] at outside
        rw [kept place outside.2, freed, if_neg outside.1]

/-- A removal that fails has removed what comes before the plain file that is in the way. -/
theorem removeStale_eq_error {error : ExtractError} (proper : tree.WellFormed)
    (rooted : ∀ pair ∈ stale, pair.1 ≠ []) (failure : removeStale tree stale = (after, .error error)) :
    ∃ cleared spot text rest, stale = cleared ++ (spot, text) :: rest ∧
      removeStale tree cleared = (after, .ok ()) ∧ ∃ bytes, after.entry? spot = some (.file bytes) := by
  induction stale generalizing tree with
  | nil => simp [removeStale] at failure
  | cons pair rest ih =>
    obtain ⟨spot, text⟩ := pair
    rw [List.forall_mem_cons] at rooted
    rcases removeStale_cons proper rooted.1 text with ⟨bytes, present, stops⟩ | ⟨next, sound, goes, -⟩
    · rw [stops] at failure
      obtain rfl : tree = after := (Prod.mk.inj failure).1
      exact ⟨[], spot, text, rest, rfl, rfl, bytes, present⟩
    · rw [goes] at failure
      obtain ⟨cleared, blocked, shown, others, rfl, success, present⟩ := ih sound rooted.2 failure
      exact ⟨(spot, text) :: cleared, blocked, shown, others, rfl, (goes cleared).trans success, present⟩

end Removal

/-- The places that are removed before an extraction, as they are shown. -/
def staleOf (dest : List String) (shown : String) : List (List String × String) :=
  [(dest ++ ["include"], headersText shown),
   (dest ++ ["docs", "topics"], Path.join (Path.join shown "docs") "topics")]

theorem staleOf_rooted (dest : List String) (shown : String) : ∀ pair ∈ staleOf dest shown, pair.1 ≠ [] := by
  simp [staleOf]

/-- Everything an extraction can do: fail to remove what is old, stop at an entry, or go through all of
them and then look at what it has found. -/
theorem extract_cases {archive : Archive} {shown : String} {outcome : Except ExtractError String}
    (proper : tree.WellFormed) (ran : archive.extract dest shown tree = (after, outcome)) :
    (∃ error, outcome = .error error ∧ removeStale tree (staleOf dest shown) = (after, .error error)) ∨
    ∃ cleared, removeStale tree (staleOf dest shown) = (cleared, .ok ()) ∧
      ((∃ error done entry rest before, outcome = .error error ∧ archive.entries = done ++ entry :: rest ∧
          extractAll? dest cleared done = some before ∧ extractOne? dest before entry = none ∧
          ∀ place, after.entry? place = before.entry? place) ∨
        extractAll? dest cleared archive.entries = some after ∧
          ((∃ error, outcome = .error error) ∧
              ¬(archive.intact = true ∧ ∃ entry ∈ archive.entries, IsHeader entry) ∨
            outcome = .ok (headersText shown) ∧
              archive.intact = true ∧ ∃ entry ∈ archive.entries, IsHeader entry)) := by
  rcases removal : removeStale tree (staleOf dest shown) with ⟨cleared, error | ⟨⟩⟩
  · have result := removal
    simp only [staleOf] at result
    simp only [extract, result] at ran
    obtain ⟨rfl, rfl⟩ := Prod.mk.inj ran
    exact .inl ⟨error, rfl, rfl⟩
  · refine .inr ⟨cleared, rfl, ?_⟩
    have sound := (removeStale_eq_ok proper (staleOf_rooted dest shown) removal).1
    simp only [staleOf] at removal
    simp only [extract, removal] at ran
    cases run : extractAll? dest cleared archive.entries with
    | none =>
      obtain ⟨stopped, error, result, done, entry, rest, before, split, reached, blocked, same⟩ :=
        extractEntries_of_extractAll?_eq_none sound run shown false
      simp only [result] at ran
      obtain ⟨rfl, rfl⟩ := Prod.mk.inj ran
      exact .inl ⟨error, done, entry, rest, before, rfl, split, reached, blocked, same⟩
    | some final =>
      obtain ⟨found, result, covers⟩ := extractEntries_of_extractAll? run shown false
      simp only [result] at ran
      rw [Bool.false_eq_true, false_or] at covers
      rw [← covers]
      cases intact : archive.intact with
      | false =>
        obtain ⟨rfl, rfl⟩ : final = after ∧ .error .corruptEntry = outcome := by simpa [intact] using ran
        exact .inr ⟨rfl, .inl ⟨⟨_, rfl⟩, by simp⟩⟩
      | true =>
        cases found with
        | false =>
          obtain ⟨rfl, rfl⟩ : final = after ∧ .error .missingInclude = outcome := by simpa [intact] using ran
          exact .inr ⟨rfl, .inl ⟨⟨_, rfl⟩, by simp⟩⟩
        | true =>
          obtain ⟨rfl, rfl⟩ : final = after ∧ .ok (headersText shown) = outcome := by simpa [intact] using ran
          exact .inr ⟨rfl, .inr ⟨rfl, rfl, rfl⟩⟩

end Archive

end ApiAtlas
