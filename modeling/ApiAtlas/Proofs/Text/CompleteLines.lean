import ApiAtlas.Proofs.Text.Trim
import Mathlib.Data.List.Induction

/-! # Texts of complete lines

A text that is empty or ends with a line feed has one line for each line feed, and what follows it has lines of its own.
Lines that are joined and trimmed give a text of several lines exactly if more than one of them is not blank.
-/

namespace ApiAtlas.Text

variable {s t : List Char} {c : Char}

/-- A text of complete lines: nothing, or a line feed at the end. -/
def Complete (s : List Char) : Prop :=
  ∀ c ∈ s.getLast?, c = '\n'

theorem complete_append_feed (s : List Char) : Complete (s ++ ['\n']) := by
  simp [Complete]

theorem Complete.exists_eq_append (complete : Complete s) (filled : s ≠ []) : ∃ front, s = front ++ ['\n'] := by
  rcases List.eq_nil_or_concat s with rfl | ⟨front, last, rfl⟩
  · contradiction
  · rw [List.concat_eq_append] at complete ⊢
    exact ⟨front, by rw [complete last (by simp)]⟩

theorem Complete.append (first : Complete s) (second : Complete t) : Complete (s ++ t) := by
  by_cases empty : t = []
  · simpa [empty] using first
  · rwa [Complete, List.getLast?_append_of_ne_nil _ empty]

/-- Complete lines keep to themselves. -/
theorem lines_append_of_complete (complete : Complete s) (t : List Char) : lines (s ++ t) = lines s ++ lines t := by
  by_cases empty : s = []
  · rw [empty]
    rfl
  · obtain ⟨front, rfl⟩ := complete.exists_eq_append empty
    have nothing : lines [] = [] := rfl
    rw [List.append_assoc, List.singleton_append, lines_append_feed, lines_append_feed, nothing, List.append_nil]

theorem length_splitBy_feed (s : List Char) : (splitBy (· == '\n') s).length = lineFeeds s + 1 := by
  unfold lineFeeds
  induction s with
  | nil => rfl
  | cons c rest ih =>
    by_cases feed : c = '\n'
    · subst feed
      rw [splitBy_cons_of_separator rfl, List.length_cons, ih, List.count_cons_self]
    · obtain ⟨piece, pieces, split, grown⟩ := @splitBy_cons_of_plain (· == '\n') c (beq_false_of_ne feed) rest
      rw [split] at ih
      rw [grown, List.count_cons_of_ne feed, ← ih, List.length_cons, List.length_cons]

/-- Complete lines are counted by their line feeds. -/
theorem length_lines_of_complete (complete : Complete s) : (lines s).length = lineFeeds s := by
  by_cases empty : s = []
  · rw [empty]
    rfl
  · obtain ⟨front, rfl⟩ := complete.exists_eq_append empty
    have nothing : lines [] = [] := rfl
    rw [lines_append_feed, nothing, List.append_nil, List.length_map, length_splitBy_feed, lineFeeds_append]
    rfl

theorem lineFeeds_eq_zero_iff : lineFeeds s = 0 ↔ '\n' ∉ s :=
  List.count_eq_zero

theorem feedless_of_mem_lines {line : List Char} (member : line ∈ lines s) : '\n' ∉ line := by
  have closed {pieces : List (List Char)} (free : ∀ piece ∈ pieces, '\n' ∉ piece) :
      ∀ line ∈ closeLines pieces, '\n' ∉ line := by
    fun_induction closeLines pieces with
    | case1 => simp
    | case2 last empty => simp
    | case3 last filled => exact free
    | case4 piece rest more ih =>
      rw [List.forall_mem_cons] at free ⊢
      exact ⟨fun inside => free.1 ((dropReturn_isPrefix piece).subset inside), ih free.2⟩
  refine closed ?_ line member
  intro piece known inside
  simpa using free_of_mem_splitBy known '\n' inside

/-- A text that stands on a line as it is. -/
structure IsLine (s : List Char) : Prop where
  feedless : '\n' ∉ s
  returnless : s.getLast? ≠ some '\r'

theorem IsLine.prepend (feedless : '\n' ∉ s) (one : IsLine t) (filled : t ≠ []) : IsLine (s ++ t) := by
  refine ⟨?_, ?_⟩
  · simpa [feedless] using one.feedless
  · rw [List.getLast?_append_of_ne_nil s filled]
    exact one.returnless

/-- A text is the one line of itself exactly if it can stand on a line as it is. -/
theorem lines_append_feed_eq_iff : lines (s ++ ['\n']) = [s] ↔ IsLine s := by
  have nothing : lines [] = [] := rfl
  have alone (feedless : '\n' ∉ s) : lines (s ++ ['\n']) = [dropReturn s] := by
    rw [lines_append_feed, splitBy_feed_of_free feedless, nothing, List.map_singleton, List.append_nil]
  constructor
  · intro same
    have feedless : '\n' ∉ s := by
      have single := congrArg List.length same
      have last : lineFeeds ['\n'] = 1 := rfl
      rw [length_lines_of_complete (complete_append_feed s), lineFeeds_append, last, List.length_singleton] at single
      exact lineFeeds_eq_zero_iff.mp (Nat.succ.inj single)
    refine ⟨feedless, fun ends => ?_⟩
    rw [alone feedless, List.singleton_inj, dropReturn, if_pos ends] at same
    obtain ⟨front, rfl⟩ := List.getLast?_eq_some_iff.mp ends
    simp at same
  · intro one
    rw [alone one.feedless, dropReturn_eq_self one.returnless]

theorem trim_append_of_blank_left (blank : isBlankText s = true) (t : List Char) : trim (s ++ t) = trim t := by
  induction s with
  | nil => rfl
  | cons c rest ih =>
    rw [isBlankText, List.all_cons, Bool.and_eq_true] at blank
    rw [List.cons_append, trim_cons_of_blank blank.1, ih blank.2]

theorem trim_append_of_blank_right (blank : isBlankText t = true) (s : List Char) : trim (s ++ t) = trim s := by
  rw [isBlankText, List.all_eq_true] at blank
  induction t using List.reverseRecOn with
  | nil => rw [List.append_nil]
  | append_singleton front c ih =>
    rw [← List.append_assoc, trim_append_of_blank (blank c (by simp)), ih fun d inside => blank d (by simp [inside])]

/-- What stands between two texts that are not blank is not trimmed away. -/
theorem mem_trim_append_cons (before : isBlankText s = false) (after : isBlankText t = false) :
    c ∈ trim (s ++ c :: t) := by
  obtain ⟨d, inside, letter⟩ := List.all_eq_false.mp before
  obtain ⟨e, behind, other⟩ := List.all_eq_false.mp after
  rw [Bool.not_eq_true] at letter other
  obtain ⟨front, middle, rfl⟩ := List.append_of_mem inside
  obtain ⟨gap, back, rfl⟩ := List.append_of_mem behind
  have shape : front ++ d :: middle ++ c :: (gap ++ e :: back) = front ++ d :: (middle ++ c :: gap ++ e :: back) := by
    simp
  rw [shape, trim_append_cons letter, trimEnd_append_cons other]
  simp

theorem isBlankText_joinLines (ls : List (List Char)) : isBlankText (joinLines ls) = ls.all isBlankText := by
  induction ls with
  | nil => rfl
  | cons line rest ih =>
    cases rest with
    | nil => simp
    | cons next more =>
      have feed : isBlank '\n' = true := by decide
      rw [joinLines_cons_cons, List.all_cons, ← ih, isBlankText, List.all_append, List.all_cons, feed, Bool.true_and]
      rfl

/-- The lines that say something. -/
def filledLines (ls : List (List Char)) : List (List Char) :=
  ls.filter fun line => !isBlankText line

section FilledLines

variable {line : List Char} {ls : List (List Char)}

theorem filledLines_cons_of_blank (blank : isBlankText line = true) (ls : List (List Char)) :
    filledLines (line :: ls) = filledLines ls :=
  List.filter_cons_of_neg (by simp [blank])

theorem filledLines_cons_of_filled (filled : isBlankText line = false) (ls : List (List Char)) :
    filledLines (line :: ls) = line :: filledLines ls :=
  List.filter_cons_of_pos (by simp [filled])

theorem filledLines_eq_nil_iff : filledLines ls = [] ↔ isBlankText (joinLines ls) = true := by
  rw [isBlankText_joinLines, List.all_eq_true, filledLines, List.filter_eq_nil_iff]
  simp

/-- Joined and trimmed, lines make up one line exactly if at most one of them says something. -/
theorem feedless_trim_joinLines_iff (feedless : ∀ line ∈ ls, '\n' ∉ line) :
    '\n' ∉ trim (joinLines ls) ↔ (filledLines ls).length ≤ 1 := by
  induction ls with
  | nil => exact iff_of_true (by decide) (Nat.zero_le 1)
  | cons line rest ih =>
    rw [List.forall_mem_cons] at feedless
    cases rest with
    | nil =>
      rw [joinLines_singleton]
      exact iff_of_true (fun inside => feedless.1 (mem_of_mem_trim inside)) (List.length_filter_le _ [line])
    | cons next more =>
      have tail := ih feedless.2
      rw [joinLines_cons_cons]
      cases blank : isBlankText line with
      | true =>
        rw [trim_append_of_blank_left blank, trim_cons_of_blank (by decide), tail, filledLines_cons_of_blank blank]
      | false =>
        -- The line says something, so it stands alone exactly if the others are blank.
        have alone : (filledLines (line :: next :: more)).length ≤ 1 ↔
            isBlankText (joinLines (next :: more)) = true := by
          rw [filledLines_cons_of_filled blank, ← filledLines_eq_nil_iff, ← List.length_eq_zero_iff, List.length_cons]
          omega
        rw [alone]
        cases others : isBlankText (joinLines (next :: more)) with
        | true =>
          have ending : isBlankText ('\n' :: joinLines (next :: more)) = true := by
            rw [isBlankText, List.all_cons, ← isBlankText, others]
            decide
          rw [trim_append_of_blank_right ending]
          exact iff_of_true (fun inside => feedless.1 (mem_of_mem_trim inside)) rfl
        | false => exact iff_of_false (not_not_intro (mem_trim_append_cons blank others)) Bool.false_ne_true

end FilledLines

end ApiAtlas.Text
