import ApiAtlas.Catalog.Basic
import ApiAtlas.Proofs.Names
import Mathlib.Data.List.Basic
import Mathlib.Data.List.Induction
import Mathlib.Data.List.Nodup

/-! # Histories and their ledgers

A history is a list of operations on a catalog. What it leaves behind is described without slots and
indexes: the records added since the last clear, the ledger that keeps the last record of every name
at the place of its first addition, and the same records ordered by their last addition. Each
description is followed through one more addition; the catalog itself is not looked at here.
-/

namespace ApiAtlas

/-- A change of a catalog. -/
inductive Operation where
  | add (record : Record)
  | extend (records : List Record)
  | clear
deriving DecidableEq, Repr

namespace Operation

/-- The records that an operation adds. -/
def added : Operation → List Record
  | add record => [record]
  | extend records => records
  | clear => []

/-- Whether an operation drops everything. -/
def isClear : Operation → Bool
  | clear => true
  | _ => false

end Operation

namespace Catalog

/-- Carry out one operation. -/
def apply (catalog : Catalog) : Operation → Catalog
  | .add record => catalog.add record
  | .extend records => catalog.addAll records
  | .clear => catalog.clear

/-- The catalog that a history leads to. -/
def run (history : List Operation) : Catalog :=
  history.foldl apply empty

end Catalog

/-- The records added after the last clear, in order. -/
def additions (history : List Operation) : List Record :=
  (history.reverse.takeWhile fun operation => !operation.isClear).reverse.flatMap Operation.added

/-- The last record added under a name. -/
def lastNamed (added : List Record) (name : String) : Option Record :=
  added.reverse.find? fun record => record.name == name

/-- For every name in the order of first additions, the last record added under it. -/
def ledger (added : List Record) : List Record :=
  (Names.firstOccurrences (added.map Record.name)).filterMap (lastNamed added)

/-- The records that no later one replaces, in the order in which they were added. -/
def recency : List Record → List Record
  | [] => []
  | record :: rest =>
    if record.name ∈ rest.map Record.name then recency rest else record :: recency rest

/-- When a name was last used, counted in additions from one; zero if it never was. -/
def lastTime (added : List Record) (name : String) : Nat :=
  added.length - added.reverse.findIdx fun record => record.name == name

theorem additions_append_clear (history : List Operation) :
    additions (history ++ [.clear]) = [] := by
  simp [additions, Operation.isClear]

theorem additions_append_of_not_clear (history : List Operation) (operation : Operation)
    (keeps : operation.isClear = false) :
    additions (history ++ [operation]) = additions history ++ operation.added := by
  simp [additions, keeps]

/-- The records since the last clear are the last ones of all that were ever added. -/
theorem additions_suffix (history : List Operation) :
    additions history <:+ history.flatMap Operation.added := by
  obtain ⟨front, split⟩ := List.takeWhile_prefix (l := history.reverse)
    (fun operation : Operation => !operation.isClear)
  refine ⟨front.reverse.flatMap Operation.added, ?_⟩
  rw [additions, ← List.flatMap_append, ← List.reverse_append, split, List.reverse_reverse]

theorem lastNamed_append_singleton (added : List Record) (record : Record) (name : String) :
    lastNamed (added ++ [record]) name =
      if record.name = name then some record else lastNamed added name := by
  by_cases same : record.name = name
  · simp [lastNamed, same]
  · simp [lastNamed, same]

theorem lastNamed_name {added : List Record} {name : String} {record : Record}
    (found : lastNamed added name = some record) : record.name = name := by
  simpa using List.find?_some found

theorem mem_of_lastNamed {added : List Record} {name : String} {record : Record}
    (found : lastNamed added name = some record) : record ∈ added :=
  List.mem_reverse.mp (List.mem_of_find?_eq_some found)

theorem lastNamed_isSome_iff {added : List Record} {name : String} :
    (lastNamed added name).isSome ↔ name ∈ added.map Record.name := by
  simp [lastNamed, List.find?_isSome]

theorem lastNamed_append (first second : List Record) (name : String) :
    lastNamed (first ++ second) name = (lastNamed second name).or (lastNamed first name) := by
  rw [lastNamed, List.reverse_append, List.find?_append, lastNamed, lastNamed]

theorem lastNamed_of_mem {records : List Record} {record : Record} (nodup : (records.map Record.name).Nodup)
    (member : record ∈ records) : lastNamed records record.name = some record := by
  obtain ⟨found, last⟩ := Option.isSome_iff_exists.mp (lastNamed_isSome_iff.mpr (List.mem_map_of_mem member))
  rw [last, List.inj_on_of_nodup_map nodup (mem_of_lastNamed last) member (lastNamed_name last)]

theorem lastNamed_eq_none_iff {records : List Record} {name : String} :
    lastNamed records name = none ↔ name ∉ records.map Record.name := by
  rw [← lastNamed_isSome_iff, Option.not_isSome_iff_eq_none]

theorem getElem?_filterMap_of_isSome {α β : Type} {f : α → Option β} {items : List α}
    (total : ∀ item ∈ items, (f item).isSome) (slot : Nat) :
    (items.filterMap f)[slot]? = items[slot]?.bind f := by
  induction items generalizing slot with
  | nil => simp
  | cons item rest ih =>
    obtain ⟨value, found⟩ := Option.isSome_iff_exists.mp (total item (by simp))
    have tail := ih fun other member => total other (by simp [member])
    rw [List.filterMap_cons_some found]
    cases slot with
    | zero => simp [found]
    | succ slot => simpa using tail slot

/-- The place of a record in the ledger is the place of its name among the names. -/
theorem ledger_getElem? (added : List Record) (slot : Nat) :
    (ledger added)[slot]? =
      (Names.firstOccurrences (added.map Record.name))[slot]?.bind (lastNamed added) := by
  apply getElem?_filterMap_of_isSome
  intro name member
  exact lastNamed_isSome_iff.mpr (Names.mem_firstOccurrences.mp member)

theorem ledger_map_name (added : List Record) :
    (ledger added).map Record.name = Names.firstOccurrences (added.map Record.name) := by
  apply List.ext_getElem?
  intro slot
  rw [List.getElem?_map, ledger_getElem?]
  cases at_slot : (Names.firstOccurrences (added.map Record.name))[slot]? with
  | none => rfl
  | some name =>
    have used : name ∈ added.map Record.name :=
      Names.mem_firstOccurrences.mp (List.mem_of_getElem? at_slot)
    obtain ⟨record, found⟩ := Option.isSome_iff_exists.mp (lastNamed_isSome_iff.mpr used)
    simp [found, lastNamed_name found]

theorem ledger_names_nodup (added : List Record) : ((ledger added).map Record.name).Nodup := by
  rw [ledger_map_name]
  exact Names.nodup_firstOccurrences _

theorem mem_ledger_iff {added : List Record} {record : Record} :
    record ∈ ledger added ↔ lastNamed added record.name = some record := by
  constructor
  · intro member
    obtain ⟨name, _, found⟩ := List.mem_filterMap.mp member
    rw [lastNamed_name found]
    exact found
  · intro found
    refine List.mem_filterMap.mpr ⟨record.name, ?_, found⟩
    exact Names.mem_firstOccurrences.mpr (lastNamed_isSome_iff.mp (by simp [found]))

/-- A new name goes to the end. -/
theorem ledger_append_of_fresh {added : List Record} {record : Record}
    (fresh : record.name ∉ added.map Record.name) :
    ledger (added ++ [record]) = ledger added ++ [record] := by
  have unknown : record.name ∉ Names.firstOccurrences (added.map Record.name) := fun member =>
    fresh (Names.mem_firstOccurrences.mp member)
  have same : (Names.firstOccurrences (added.map Record.name)).filterMap
      (lastNamed (added ++ [record])) = ledger added := by
    apply List.filterMap_congr
    intro name member
    rw [lastNamed_append_singleton, if_neg]
    rintro rfl
    exact unknown member
  rw [ledger, List.map_append, List.map_singleton, Names.firstOccurrences_append_singleton,
    Names.insertNew, if_neg unknown, List.filterMap_append, same]
  simp [lastNamed_append_singleton]

/-- A name that is known keeps its place. -/
theorem ledger_append_of_known {added : List Record} {record : Record} {slot : Nat}
    (known : ((ledger added).map Record.name)[slot]? = some record.name) :
    ledger (added ++ [record]) = (ledger added).set slot record := by
  rw [ledger_map_name] at known
  have member := List.mem_of_getElem? known
  have names : Names.firstOccurrences ((added ++ [record]).map Record.name) =
      Names.firstOccurrences (added.map Record.name) := by
    rw [List.map_append, List.map_singleton, Names.firstOccurrences_append_singleton,
      Names.insertNew, if_pos member]
  apply List.ext_getElem?
  intro other
  rw [ledger_getElem?, names, List.getElem?_set]
  by_cases same : slot = other
  · subst same
    have bound : slot < (ledger added).length := by
      have := (List.getElem?_eq_some_iff.mp known).1
      rwa [← ledger_map_name, List.length_map] at this
    simp [known, lastNamed_append_singleton, bound]
  · rw [if_neg same, ledger_getElem?]
    cases at_other : (Names.firstOccurrences (added.map Record.name))[other]? with
    | none => rfl
    | some name =>
      have differs : record.name ≠ name := by
        rintro rfl
        have bound := (List.getElem?_eq_some_iff.mp known).1
        exact same ((List.getElem?_inj bound (Names.nodup_firstOccurrences _)).mp
          (known.trans at_other.symm))
      simp [lastNamed_append_singleton, differs]

theorem recency_append_singleton (added : List Record) (record : Record) :
    recency (added ++ [record]) =
      (recency added).filter (fun other => other.name ≠ record.name) ++ [record] := by
  induction added with
  | nil => simp [recency]
  | cons first rest ih =>
    by_cases later : first.name ∈ rest.map Record.name
    · have kept : first.name ∈ (rest ++ [record]).map Record.name := by simp [later]
      rw [List.cons_append, recency, if_pos kept, recency, if_pos later, ih]
    · by_cases same : first.name = record.name
      · have kept : first.name ∈ (rest ++ [record]).map Record.name := by simp [same]
        rw [List.cons_append, recency, if_pos kept, recency, if_neg later, ih]
        simp [same]
      · have last : first.name ∉ (rest ++ [record]).map Record.name := by simpa [same] using later
        rw [List.cons_append, recency, if_neg last, recency, if_neg later, ih]
        simp [same]

theorem mem_recency_iff {added : List Record} {record : Record} :
    record ∈ recency added ↔ lastNamed added record.name = some record := by
  induction added using List.reverseRecOn with
  | nil => simp [recency, lastNamed]
  | append_singleton added last ih =>
    rw [recency_append_singleton, lastNamed_append_singleton, List.mem_append, List.mem_filter, ih]
    by_cases same : last.name = record.name
    · simp [same, eq_comm]
    · have differs : record ≠ last := fun equal => same (congrArg Record.name equal.symm)
      simp [same, Ne.symm same, differs]

theorem name_ne_of_mem_filter {records : List Record} {record : Record} {name : String}
    (member : record ∈ records.filter fun other => other.name ≠ name) : record.name ≠ name := by
  simpa using (List.mem_filter.mp member).2

theorem lastTime_append_singleton (added : List Record) (record : Record) (name : String) :
    lastTime (added ++ [record]) name =
      if record.name = name then added.length + 1 else lastTime added name := by
  have reversed : (added ++ [record]).reverse = record :: added.reverse := by simp
  rw [lastTime, reversed, List.findIdx_cons, List.length_append, List.length_singleton]
  by_cases same : record.name = name
  · rw [if_pos same, beq_iff_eq.mpr same]
    rfl
  · rw [if_neg same, beq_false_of_ne same]
    exact Nat.add_sub_add_right _ 1 _

theorem lastTime_le_length (added : List Record) (name : String) :
    lastTime added name ≤ added.length :=
  Nat.sub_le _ _

/-- Records that stay are listed by the time of the last addition under their names. -/
theorem recency_pairwise (added : List Record) :
    (recency added).Pairwise fun left right =>
      lastTime added left.name < lastTime added right.name := by
  induction added using List.reverseRecOn with
  | nil => exact .nil
  | append_singleton added last ih =>
    rw [recency_append_singleton, List.pairwise_append]
    refine ⟨(ih.filter _).imp_of_mem ?_, List.pairwise_singleton _ _, ?_⟩
    · intro left right leftMember rightMember earlier
      rwa [lastTime_append_singleton, lastTime_append_singleton,
        if_neg (name_ne_of_mem_filter leftMember).symm, if_neg (name_ne_of_mem_filter rightMember).symm]
    · intro left member right single
      obtain rfl := List.mem_singleton.mp single
      rw [lastTime_append_singleton, lastTime_append_singleton,
        if_neg (name_ne_of_mem_filter member).symm, if_pos rfl]
      exact Nat.lt_succ_of_le (lastTime_le_length added left.name)

/-- Earlier additions shift the times of the names that are used again. -/
theorem lastTime_append {before added : List Record} {name : String}
    (used : name ∈ added.map Record.name) :
    lastTime (before ++ added) name = before.length + lastTime added name := by
  have found : added.reverse.findIdx (fun record => record.name == name) < added.reverse.length := by
    rw [List.findIdx_lt_length]
    simpa using used
  rw [lastTime, lastTime, List.reverse_append, List.findIdx_append, if_pos found, List.length_append]
  rw [List.length_reverse] at found
  omega

end ApiAtlas
