/-! # Lists of names without repetition

A name list grows at its end and holds every name at most once.
-/

namespace ApiAtlas.Names

/-- Add a name at the end, unless it is already there. -/
def insertNew (names : List String) (name : String) : List String :=
  if name ∈ names then names else names ++ [name]

/-- Names in the order of their first occurrence. -/
def firstOccurrences (names : List String) : List String :=
  names.foldl insertNew []

theorem mem_insertNew {names : List String} {name other : String} :
    other ∈ insertNew names name ↔ other ∈ names ∨ other = name := by
  unfold insertNew
  split
  · rename_i known
    constructor
    · exact Or.inl
    · rintro (member | rfl)
      · exact member
      · exact known
  · simp

theorem nodup_insertNew {names : List String} (nodup : names.Nodup) (name : String) :
    (insertNew names name).Nodup := by
  unfold insertNew
  split
  · exact nodup
  · rename_i fresh
    rw [List.nodup_append]
    refine ⟨nodup, by simp, fun a member b single => ?_⟩
    rintro rfl
    simp only [List.mem_singleton] at single
    exact fresh (single ▸ member)

end ApiAtlas.Names
