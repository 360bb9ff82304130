/-! # Groups of lines

Many formats announce a group by its first line: a tag, a heading, a comment. `groupBy` cuts a list
at such announcements and says what came before the first one.
-/

namespace ApiAtlas.Text

variable {α β : Type}

/-- What precedes the first announcement, and each announcement with what follows it. -/
def groupBy (announces : α → Option β) : List α → List α × List (β × List α)
  | [] => ([], [])
  | item :: items =>
    let (before, groups) := groupBy announces items
    match announces item with
    | some head => ([], (head, before) :: groups)
    | none => (item :: before, groups)

theorem groupBy_cons_of_eq_some {announces : α → Option β} {item : α} {items : List α} {head : β}
    (announced : announces item = some head) :
    groupBy announces (item :: items) =
      ([], (head, (groupBy announces items).1) :: (groupBy announces items).2) := by
  simp [groupBy, announced]

theorem groupBy_cons_of_eq_none {announces : α → Option β} {item : α} {items : List α}
    (plain : announces item = none) :
    groupBy announces (item :: items) =
      (item :: (groupBy announces items).1, (groupBy announces items).2) := by
  simp [groupBy, plain]

/-- Items that announce nothing stay in front. -/
theorem groupBy_append_of_plain {announces : α → Option β} {front items : List α}
    (plain : ∀ item ∈ front, announces item = none) :
    groupBy announces (front ++ items) =
      (front ++ (groupBy announces items).1, (groupBy announces items).2) := by
  induction front with
  | nil => rfl
  | cons item rest ih =>
    rw [List.cons_append, groupBy_cons_of_eq_none (plain item (by simp)),
      ih fun other member => plain other (by simp [member])]
    rfl

end ApiAtlas.Text
