import ApiAtlas.Proofs.Text.CompleteLines
import ApiAtlas.Render.Line

/-! # Lines of a page

Pages are put together from texts of complete lines, so their lines are those of the parts. A part that is meant to be
one line is shown as that line if it has no line feed in it.
-/

namespace ApiAtlas.Render

open Text

variable {α : Type} {text : String}

/-- The lines that a text is shown on. -/
def shownLines (text : String) : List String :=
  (lines text.toList).map String.ofList

theorem shownLines_append (complete : Complete text.toList) (rest : String) :
    shownLines (text ++ rest) = shownLines text ++ shownLines rest := by
  rw [shownLines, String.toList_append, lines_append_of_complete complete, List.map_append, ← shownLines,
    ← shownLines]

theorem length_shownLines (complete : Complete text.toList) : (shownLines text).length = lineFeeds text.toList := by
  rw [shownLines, List.length_map, length_lines_of_complete complete]

theorem complete_line (text : String) : Complete (line text).toList := by
  rw [line, String.toList_append]
  exact complete_append_feed _

theorem linesOf_cons (item : α) (items : List α) (form : α → String) :
    linesOf (item :: items) form = form item ++ linesOf items form := by
  rw [linesOf, List.map_cons, String.join_cons, ← linesOf]

theorem linesOf_append (first second : List α) (form : α → String) :
    linesOf (first ++ second) form = linesOf first form ++ linesOf second form := by
  rw [linesOf, List.map_append, String.join_append, ← linesOf, ← linesOf]

theorem complete_linesOf {items : List α} {form : α → String} (complete : ∀ item, Complete (form item).toList) :
    Complete (linesOf items form).toList := by
  induction items with
  | nil => simp [linesOf, Complete]
  | cons item rest ih =>
    rw [linesOf_cons, String.toList_append]
    exact (complete item).append ih

theorem shownLines_line_iff : shownLines (line text) = [text] ↔ IsLine text.toList := by
  have feed : "\n".toList = ['\n'] := rfl
  have listed : [text] = [text.toList].map String.ofList := by simp
  rw [shownLines, line, String.toList_append, feed, ← lines_append_feed_eq_iff, listed]
  exact List.map_inj_right fun _ _ => String.ofList_injective

/-- Texts are shown on at least one line each. -/
theorem length_le_shownLines_linesOf (texts : List String) :
    texts.length ≤ (shownLines (linesOf texts line)).length := by
  induction texts with
  | nil => exact Nat.zero_le _
  | cons text rest ih =>
    have feeds : 1 ≤ lineFeeds (line text).toList := by
      rw [line, String.toList_append, lineFeeds_append]
      exact Nat.le_add_left 1 _
    rw [linesOf_cons, shownLines_append (complete_line text), List.length_append,
      length_shownLines (complete_line text), List.length_cons]
    omega

/-- Texts are shown as the lines they are meant to be exactly if each of them is a line. -/
theorem shownLines_linesOf_iff {texts : List String} :
    shownLines (linesOf texts line) = texts ↔ ∀ text ∈ texts, IsLine text.toList := by
  induction texts with
  | nil => exact iff_of_true rfl (by simp)
  | cons text rest ih =>
    rw [linesOf_cons, shownLines_append (complete_line text), List.forall_mem_cons, ← ih, ← shownLines_line_iff]
    constructor
    · intro same
      -- Neither part can be shown on fewer lines, so both are shown on as many as they should.
      have first : 1 ≤ (shownLines (line text)).length := length_le_shownLines_linesOf [text]
      have others := length_le_shownLines_linesOf rest
      have total := congrArg List.length same
      rw [List.length_append, List.length_cons] at total
      rw [← List.singleton_append] at same
      exact List.append_inj same (by rw [List.length_singleton]; omega)
    · rintro ⟨first, others⟩
      rw [first, others, List.singleton_append]

end ApiAtlas.Render
