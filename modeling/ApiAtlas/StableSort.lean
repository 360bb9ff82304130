/-! # Stable sorting

Insertion sort by a relation "may stand before". Items that may stand in either order keep the order
they had.
-/

namespace ApiAtlas

variable {α : Type}

/-- Put an item in front of the first one that it may stand before. -/
def insertBy (before : α → α → Bool) (item : α) : List α → List α
  | [] => [item]
  | other :: rest =>
    if before item other then item :: other :: rest else other :: insertBy before item rest

/-- The items in an order that `before` allows. -/
def stableSort (before : α → α → Bool) : List α → List α
  | [] => []
  | item :: rest => insertBy before item (stableSort before rest)

theorem insertBy_perm (before : α → α → Bool) (item : α) (items : List α) :
    (insertBy before item items).Perm (item :: items) := by
  induction items with
  | nil => exact .refl _
  | cons other rest ih =>
    unfold insertBy
    split
    · exact .refl _
    · exact (ih.cons other).trans (.swap item other rest)

/-- Sorting neither loses nor adds anything. -/
theorem stableSort_perm (before : α → α → Bool) (items : List α) :
    (stableSort before items).Perm items := by
  induction items with
  | nil => exact .refl _
  | cons item rest ih => exact (insertBy_perm before item _).trans (ih.cons item)

end ApiAtlas
