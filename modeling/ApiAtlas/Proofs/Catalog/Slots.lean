import ApiAtlas.Catalog.Slots
import Mathlib.Data.List.Sort
import Mathlib.Data.String.Basic

/-! # What the indexes of a catalog enumerate

An index files numbers under names, kinds and categories. Every list of numbers is described by the
numbers it should hold: it enumerates them, each once and in ascending order. The laws say how
entering or removing one number changes what is enumerated; they do not look at records.
-/

namespace ApiAtlas

/-- A list that holds exactly the numbers with a property, in ascending order. -/
structure Enumerates (slots : List Nat) (held : Nat → Prop) : Prop where
  ascending : slots.Pairwise (· < ·)
  mem_iff : ∀ slot, slot ∈ slots ↔ held slot

theorem mem_insertSlot {slot other : Nat} {slots : List Nat} :
    other ∈ insertSlot slot slots ↔ other = slot ∨ other ∈ slots := by
  induction slots with
  | nil => simp [insertSlot]
  | cons head rest ih =>
    unfold insertSlot
    split_ifs with below same
    · exact List.mem_cons
    · simp [same]
    · simp only [List.mem_cons, ih]
      tauto

theorem insertSlot_ascending {slots : List Nat} (ascending : slots.Pairwise (· < ·)) (slot : Nat) :
    (insertSlot slot slots).Pairwise (· < ·) := by
  induction slots with
  | nil => simp [insertSlot]
  | cons head rest ih =>
    obtain ⟨first, tail⟩ := List.pairwise_cons.mp ascending
    unfold insertSlot
    split_ifs with below same
    · refine List.pairwise_cons.mpr ⟨?_, ascending⟩
      intro other member
      rcases List.mem_cons.mp member with rfl | later
      · exact below
      · exact below.trans (first other later)
    · exact ascending
    · refine List.pairwise_cons.mpr ⟨?_, ih tail⟩
      intro other member
      rcases mem_insertSlot.mp member with rfl | later
      · omega
      · exact first other later

theorem mem_removeSlot {slot other : Nat} {slots : List Nat} :
    other ∈ removeSlot slot slots ↔ other ≠ slot ∧ other ∈ slots := by
  simp [removeSlot, and_comm]

namespace Enumerates

variable {slots : List Nat} {held next : Nat → Prop} {slot : Nat}

theorem congr (listed : Enumerates slots held) (same : ∀ other, held other ↔ next other) :
    Enumerates slots next :=
  ⟨listed.ascending, fun other => (listed.mem_iff other).trans (same other)⟩

theorem insertSlot (listed : Enumerates slots held)
    (same : ∀ other, next other ↔ other = slot ∨ held other) :
    Enumerates (insertSlot slot slots) next := by
  refine ⟨insertSlot_ascending listed.ascending slot, fun other => ?_⟩
  rw [mem_insertSlot, listed.mem_iff, same]

theorem removeSlot (listed : Enumerates slots held)
    (same : ∀ other, next other ↔ other ≠ slot ∧ held other) :
    Enumerates (removeSlot slot slots) next := by
  refine ⟨listed.ascending.filter _, fun other => ?_⟩
  rw [mem_removeSlot, listed.mem_iff, same]

/-- Numbers in ascending order are determined by what they are. -/
theorem unique {others : List Nat} (left : Enumerates slots held) (right : Enumerates others held) :
    slots = others :=
  left.ascending.eq_of_mem_iff right.ascending fun slot =>
    (left.mem_iff slot).trans (right.mem_iff slot).symm

end Enumerates

namespace NameIndex

theorem slot?_insert (name other : String) (slot : Nat) (index : NameIndex) :
    slot? other (insert name slot index) = if other = name then some slot else slot? other index := by
  induction index with
  | nil =>
    by_cases same : other = name
    · simp [insert, slot?, same]
    · simp [insert, slot?, same, Ne.symm same]
  | cons entry rest ih =>
    obtain ⟨known, number⟩ := entry
    by_cases hit : known = name
    · subst hit
      by_cases same : other = known
      · simp [insert, slot?, same]
      · simp [insert, slot?, same, Ne.symm same]
    · by_cases here : known = other
      · subst here
        simp [insert, slot?, hit]
      · simp [insert, slot?, hit, here, ih]

end NameIndex

namespace CategoryIndex

/-- The categories ascend and none of them is without records. -/
structure WellFormed (index : CategoryIndex) : Prop where
  ascending : (names index).Pairwise (· < ·)
  filled : ∀ entry ∈ index, entry.2 ≠ []

theorem wellFormed_nil : WellFormed [] := ⟨.nil, by simp⟩

theorem WellFormed.tail {entry : String × List Nat} {index : CategoryIndex}
    (valid : WellFormed (entry :: index)) : WellFormed index :=
  ⟨(List.pairwise_cons.mp valid.ascending).2, fun other member => valid.filled other (by simp [member])⟩

theorem WellFormed.head_lt {entry : String × List Nat} {index : CategoryIndex}
    (valid : WellFormed (entry :: index)) : ∀ name ∈ names index, entry.1 < name :=
  (List.pairwise_cons.mp valid.ascending).1

theorem slots_eq_nil_of_not_mem {category : String} {index : CategoryIndex}
    (absent : category ∉ names index) : slots category index = [] := by
  induction index with
  | nil => rfl
  | cons entry rest ih =>
    simp only [names, List.map_cons, List.mem_cons, not_or] at absent
    rw [slots, if_neg (Ne.symm absent.1)]
    exact ih absent.2

/-- A category is listed exactly when it has records. -/
theorem WellFormed.mem_names_iff {index : CategoryIndex} (valid : WellFormed index)
    (category : String) : category ∈ names index ↔ slots category index ≠ [] := by
  induction index with
  | nil => simp [names, slots]
  | cons entry rest ih =>
    by_cases same : entry.1 = category
    · have filled := valid.filled entry (by simp)
      simp [names, slots, same, filled]
    · rw [slots, if_neg same, ← ih valid.tail]
      simp [names, Ne.symm same]

theorem mem_names_insert {category name : String} {slot : Nat} {index : CategoryIndex} :
    name ∈ names (insert category slot index) ↔ name = category ∨ name ∈ names index := by
  induction index with
  | nil => simp [names, insert]
  | cons entry rest ih =>
    unfold insert
    split_ifs with below same
    · simp [names]
    · simp [names, same]
    · simp only [names, List.map_cons, List.mem_cons] at ih ⊢
      rw [ih]
      tauto

theorem insertSlot_ne_nil (slot : Nat) (slots : List Nat) : insertSlot slot slots ≠ [] :=
  List.ne_nil_of_mem (mem_insertSlot.mpr (Or.inl rfl))

theorem WellFormed.insert {index : CategoryIndex} (valid : WellFormed index) (category : String)
    (slot : Nat) : WellFormed (insert category slot index) := by
  induction index with
  | nil => exact ⟨by simp [names, CategoryIndex.insert], by simp [CategoryIndex.insert]⟩
  | cons entry rest ih =>
    have rest := ih valid.tail
    unfold CategoryIndex.insert
    split_ifs with below same
    · refine ⟨List.pairwise_cons.mpr ⟨?_, valid.ascending⟩, ?_⟩
      · intro name member
        rcases List.mem_cons.mp member with rfl | later
        · exact below
        · exact below.trans (valid.head_lt name later)
      · intro other member
        rcases List.mem_cons.mp member with rfl | later
        · simp
        · exact valid.filled other later
    · refine ⟨valid.ascending, ?_⟩
      intro other member
      rcases List.mem_cons.mp member with rfl | later
      · exact insertSlot_ne_nil _ _
      · exact valid.filled other (by simp [later])
    · refine ⟨List.pairwise_cons.mpr ⟨?_, rest.ascending⟩, ?_⟩
      · intro name member
        rcases mem_names_insert.mp member with rfl | later
        · exact lt_of_le_of_ne (not_lt.mp below) (Ne.symm same)
        · exact valid.head_lt name later
      · intro other member
        rcases List.mem_cons.mp member with rfl | later
        · exact valid.filled _ (by simp)
        · exact rest.filled other later

/-- Filing a number changes the category it is filed under and no other. -/
theorem WellFormed.slots_insert {index : CategoryIndex} (valid : WellFormed index)
    (category other : String) (slot : Nat) :
    slots other (CategoryIndex.insert category slot index) =
      if other = category then insertSlot slot (slots other index) else slots other index := by
  induction index with
  | nil =>
    by_cases same : other = category
    · simp [CategoryIndex.insert, slots, insertSlot, same]
    · simp [CategoryIndex.insert, slots, same, Ne.symm same]
  | cons entry rest ih =>
    have step := ih valid.tail
    by_cases below : category < entry.1
    · have absent : category ∉ names (entry :: rest) := by
        intro member
        rcases List.mem_cons.mp member with equal | later
        · exact below.ne equal
        · exact (below.trans (valid.head_lt category later)).ne rfl
      rw [CategoryIndex.insert, if_pos below]
      by_cases same : other = category
      · subst same
        rw [if_pos rfl, slots_eq_nil_of_not_mem absent, slots, if_pos rfl]
        rfl
      · rw [if_neg same, slots, if_neg (Ne.symm same)]
    · rw [CategoryIndex.insert, if_neg below]
      by_cases here : category = entry.1
      · subst here
        rw [if_pos rfl, slots, slots]
        by_cases same : other = entry.1
        · rw [if_pos same, if_pos same.symm, if_pos same.symm]
        · rw [if_neg same, if_neg (Ne.symm same), if_neg (Ne.symm same)]
      · rw [if_neg here, slots, slots]
        by_cases first : entry.1 = other
        · rw [if_pos first, if_pos first, if_neg (fun equal => here (equal.symm.trans first.symm))]
        · rw [if_neg first, if_neg first, step]

/-- The part of an index that is left when a number is taken out of a category. -/
private theorem remove_cons (category : String) (slot : Nat) (entry : String × List Nat)
    (index : CategoryIndex) :
    remove category slot (entry :: index) =
      if entry.1 = category then
        if removeSlot slot entry.2 = [] then remove category slot index
        else (entry.1, removeSlot slot entry.2) :: remove category slot index
      else entry :: remove category slot index := by
  by_cases same : entry.1 = category
  · by_cases left : removeSlot slot entry.2 = []
    · simp [remove, same, left]
    · simp [remove, same, left]
  · simp [remove, same]

theorem names_remove_sublist (category : String) (slot : Nat) (index : CategoryIndex) :
    (names (remove category slot index)).Sublist (names index) := by
  induction index with
  | nil => exact .slnil
  | cons entry rest ih =>
    rw [remove_cons]
    split_ifs with same left
    · exact ih.cons _
    · exact ih.cons_cons _
    · exact ih.cons_cons _

theorem WellFormed.remove {index : CategoryIndex} (valid : WellFormed index) (category : String)
    (slot : Nat) : WellFormed (remove category slot index) := by
  refine ⟨valid.ascending.sublist (names_remove_sublist category slot index), ?_⟩
  intro entry member
  obtain ⟨⟨name, numbers⟩, listed, kept⟩ := List.mem_filterMap.mp member
  dsimp only at kept
  split_ifs at kept with same left
  · cases kept
    simpa using left
  · cases kept
    exact valid.filled _ listed

/-- Taking a number out changes the category it is taken out of and no other. -/
theorem WellFormed.slots_remove {index : CategoryIndex} (valid : WellFormed index)
    (category other : String) (slot : Nat) :
    slots other (CategoryIndex.remove category slot index) =
      if other = category then removeSlot slot (slots other index) else slots other index := by
  induction index with
  | nil => simp [CategoryIndex.remove, slots, removeSlot]
  | cons entry rest ih =>
    have step := ih valid.tail
    rw [remove_cons]
    by_cases here : entry.1 = category
    · subst here
      have absent : entry.1 ∉ names (CategoryIndex.remove entry.1 slot rest) := fun member =>
        (valid.head_lt _ ((names_remove_sublist _ _ _).subset member)).ne rfl
      by_cases same : other = entry.1
      · subst same
        by_cases left : removeSlot slot entry.2 = []
        · rw [if_pos rfl, if_pos left, if_pos rfl, slots_eq_nil_of_not_mem absent, slots, if_pos rfl, left]
        · rw [if_pos rfl, if_neg left, if_pos rfl, slots, if_pos rfl, slots, if_pos rfl]
      · have elsewhere : slots other (entry :: rest) = slots other rest := by
          rw [slots, if_neg (Ne.symm same)]
        rw [if_neg same] at step ⊢
        rw [if_pos rfl, elsewhere]
        split_ifs with left
        · exact step
        · rw [slots, if_neg (Ne.symm same)]
          exact step
    · rw [if_neg here, slots, slots]
      by_cases first : entry.1 = other
      · rw [if_pos first, if_pos first, if_neg (fun equal => here (first.trans equal))]
      · rw [if_neg first, if_neg first, step]

end CategoryIndex

end ApiAtlas
