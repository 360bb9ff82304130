import ApiAtlas.Names
import Mathlib.Data.List.Basic
import Mathlib.Data.List.Induction
import Mathlib.Data.List.Nodup

/-! # Name lists that grow at the end

Adding names one by one to a list keeps the list and puts behind it the names that it does not have, each where it
occurs first. What "occurs first" means is also said without the loop, by the places of the names.
-/

namespace ApiAtlas.Names

theorem insertNew_of_mem {names : List String} {name : String} (known : name ∈ names) :
    insertNew names name = names := by
  rw [insertNew, if_pos known]

theorem insertNew_of_not_mem {names : List String} {name : String} (fresh : name ∉ names) :
    insertNew names name = names ++ [name] := by
  rw [insertNew, if_neg fresh]

theorem insertNew_ne_nil (names : List String) (name : String) : insertNew names name ≠ [] :=
  List.ne_nil_of_mem (mem_insertNew.mpr (Or.inr rfl))

theorem insertNew_insertNew (names : List String) (name : String) :
    insertNew (insertNew names name) name = insertNew names name :=
  insertNew_of_mem (mem_insertNew.mpr (Or.inr rfl))

theorem firstOccurrences_append_singleton (names : List String) (name : String) :
    firstOccurrences (names ++ [name]) = insertNew (firstOccurrences names) name := by
  simp [firstOccurrences]

theorem mem_firstOccurrences {names : List String} {name : String} :
    name ∈ firstOccurrences names ↔ name ∈ names := by
  induction names using List.reverseRecOn with
  | nil => simp [firstOccurrences]
  | append_singleton names last ih =>
    rw [firstOccurrences_append_singleton, mem_insertNew, ih]
    simp

theorem nodup_firstOccurrences (names : List String) : (firstOccurrences names).Nodup := by
  induction names using List.reverseRecOn with
  | nil => exact .nil
  | append_singleton names last ih =>
    rw [firstOccurrences_append_singleton]
    exact nodup_insertNew ih last

/-- Of two names the one that occurs first in a list comes first. -/
theorem firstOccurrences_pairwise (names : List String) :
    (firstOccurrences names).Pairwise fun left right => names.idxOf left < names.idxOf right := by
  induction names using List.reverseRecOn with
  | nil => exact .nil
  | append_singleton names last ih =>
    have kept : (firstOccurrences names).Pairwise fun left right =>
        (names ++ [last]).idxOf left < (names ++ [last]).idxOf right := by
      refine ih.imp_of_mem ?_
      intro left right leftMember rightMember earlier
      rw [mem_firstOccurrences] at leftMember rightMember
      rwa [List.idxOf_append_of_mem leftMember, List.idxOf_append_of_mem rightMember]
    rw [firstOccurrences_append_singleton, insertNew]
    split_ifs with known
    · exact kept
    · rw [mem_firstOccurrences] at known
      refine List.pairwise_append.mpr ⟨kept, List.pairwise_singleton _ _, ?_⟩
      intro left member right single
      obtain rfl := List.mem_singleton.mp single
      rw [mem_firstOccurrences] at member
      rw [List.idxOf_append_of_mem member, List.idxOf_append_of_notMem known]
      have inside := List.idxOf_lt_length_of_mem member
      omega

/-- A list has the names of another one, each once and in the order in which they occur first. -/
structure ListsFirst (names result : List String) : Prop where
  mem_iff : ∀ name, name ∈ result ↔ name ∈ names
  nodup : result.Nodup
  ordered : result.Pairwise fun left right => names.idxOf left < names.idxOf right

theorem listsFirst_firstOccurrences (names : List String) : ListsFirst names (firstOccurrences names) :=
  ⟨fun _ => mem_firstOccurrences, nodup_firstOccurrences names, firstOccurrences_pairwise names⟩

/-- Adding names to a list leaves the list in front and adds what it does not have. -/
theorem foldl_insertNew (known names : List String) :
    names.foldl insertNew known = known ++ firstOccurrences (names.filter fun name => name ∉ known) := by
  induction names using List.reverseRecOn with
  | nil => simp [firstOccurrences]
  | append_singleton names last ih =>
    rw [List.foldl_append, ih, List.foldl_cons, List.foldl_nil, List.filter_append]
    by_cases old : last ∈ known
    · rw [insertNew_of_mem (List.mem_append_left _ old)]
      simp [old]
    · have kept : [last].filter (fun name => name ∉ known) = [last] := by simp [old]
      rw [kept, firstOccurrences_append_singleton, insertNew, insertNew]
      simp only [List.mem_append, old, false_or]
      split_ifs
      · rfl
      · rw [List.append_assoc]

end ApiAtlas.Names
