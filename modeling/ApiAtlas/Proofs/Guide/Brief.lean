import ApiAtlas.Proofs.Guide.Links

/-! # The brief of a guide

The brief is meant to be the first paragraph, that is, the first run of lines that are neither blank nor headings. It
is that run with its links reduced to their text, as long as no heading stands directly between two runs. A heading
does not end the paragraph, only a blank line does, so a run that follows upon a heading is joined to the one before.
-/

namespace ApiAtlas.Guide

open Text

section Reduction

/-- A text begins with a link that shows the second text, and the third text follows it. -/
inductive IsLink : List Char → List Char → List Char → Prop
  | mk {text target rest : List Char} (shown : text ≠ [] ∧ ']' ∉ text) (leads : target ≠ [] ∧ ')' ∉ target) :
      IsLink ('[' :: (text ++ ']' :: '(' :: (target ++ ')' :: rest))) text rest

/-- A text and what is left of it when every link is reduced to its text, from left to right. -/
inductive Reduces : List Char → List Char → Prop
  | done : Reduces [] []
  | link {s text rest shown : List Char} (here : IsLink s text rest) (more : Reduces rest shown) :
      Reduces s (text ++ shown)
  | skip {c : Char} {rest shown : List Char} (plain : ∀ text after, ¬IsLink (c :: rest) text after)
      (more : Reduces rest shown) : Reduces (c :: rest) (c :: shown)

theorem anyTarget_eq_some_iff {s target after : List Char} :
    anyTarget s = some (target, after) ↔ target ≠ [] ∧ ')' ∉ target ∧ s = target ++ ')' :: after := by
  constructor
  · intro read
    unfold anyTarget at read
    split at read
    · rename_i cut
      split_ifs at read with nothing
      obtain ⟨rfl, rfl⟩ := Prod.mk.inj (Option.some.inj read)
      obtain ⟨rfl, unclosed⟩ := splitOnce?_eq_some_iff.mp cut
      exact ⟨by simpa using nothing, unclosed, rfl⟩
    · contradiction
  · rintro ⟨filled, unclosed, rfl⟩
    have cut : splitOnce? ')' (target ++ ')' :: after) = some (target, after) :=
      splitOnce?_eq_some_iff.mpr ⟨rfl, unclosed⟩
    simp [anyTarget, cut, filled]

/-- A link with any target, as the text that it shows. -/
def shownLink : Pattern (List Char) := fun s =>
  (link anyTarget s).map fun ((text, _), after) => (text, after)

theorem shownLink_eq_some_iff {s text rest : List Char} :
    shownLink s = some (text, rest) ↔ IsLink s text rest := by
  simp only [shownLink, link, Option.bind_eq_bind, Option.map_eq_some_iff, Option.bind_eq_some_iff, Prod.exists,
    Prod.mk.injEq]
  constructor
  · rintro ⟨_, _, _, ⟨shown, opened, started, target, after, read, ⟨⟩⟩, rfl, rfl⟩
    obtain ⟨filled, unclosed, rfl⟩ := linkStart_eq_some_iff.mp started
    obtain ⟨leads, closed, rfl⟩ := anyTarget_eq_some_iff.mp read
    exact ⟨⟨filled, unclosed⟩, leads, closed⟩
  · rintro ⟨shown, leads⟩
    rename_i target
    exact ⟨text, target, rest, ⟨text, _, linkStart_eq_some_iff.mpr ⟨shown.1, shown.2, rfl⟩, target, rest,
      anyTarget_eq_some_iff.mpr ⟨leads.1, leads.2, rfl⟩, rfl⟩, rfl, rfl⟩

theorem IsLink.cons_suffix {s text rest : List Char} (link : IsLink s text rest) :
    ∃ c more, s = c :: more ∧ rest <:+ more := by
  obtain ⟨-, -⟩ := link
  rename_i target
  exact ⟨'[', _, rfl, text ++ ']' :: '(' :: (target ++ [')']), by simp⟩

theorem reduces_withoutLinks (s : List Char) : Reduces s (withoutLinks s) := by
  change Reduces s (replaceAll shownLink s)
  -- The walk goes on behind a link or behind one letter; both leave a shorter text.
  induction size : s.length using Nat.strong_induction_on generalizing s with
  | _ n ih =>
    subst size
    cases s with
    | nil => exact .done
    | cons c rest =>
      cases read : shownLink (c :: rest) with
      | some found =>
        obtain ⟨text, after⟩ := found
        have here := shownLink_eq_some_iff.mp read
        obtain ⟨_, _, ⟨⟩, left⟩ := here.cons_suffix
        rw [replaceAll_cons_of_eq_some read left]
        exact .link here (ih after.length (Nat.lt_succ_of_le left.length_le) after rfl)
      | none =>
        rw [replaceAll_cons_of_eq_none read]
        refine .skip ?_ (ih rest.length (by simp) rest rfl)
        intro text after here
        rw [shownLink_eq_some_iff.mpr here] at read
        contradiction

/-- A link leaves something of itself. -/
theorem Reduces.eq_nil_iff {s shown : List Char} (reduces : Reduces s shown) : shown = [] ↔ s = [] := by
  cases reduces with
  | done => simp
  | link here more =>
    obtain ⟨filled, -⟩ := here
    simp [filled.1]
  | skip plain more => simp

end Reduction

section Runs

variable {ls before run after : List (List Char)} {line : List Char}

/-- A heading of any level starts with a number sign. -/
def isHeadingLine (line : List Char) : Bool :=
  line.head? == some '#'

/-- A line of a paragraph is neither blank nor a heading. -/
def isTextLine (line : List Char) : Bool :=
  !isBlankText line && !isHeadingLine line

/-- The first run of lines of text, as long as it goes, and the lines before and after it. There is none only if no
line is text. -/
structure FirstRun (ls before run after : List (List Char)) : Prop where
  split : ls = before ++ (run ++ after)
  none_before : ∀ line ∈ before, isTextLine line = false
  text : ∀ line ∈ run, isTextLine line = true
  stops : ∀ line ∈ after.head?, isTextLine line = false
  found : run = [] → after = []

theorem exists_firstRun (ls : List (List Char)) : ∃ before run after, FirstRun ls before run after := by
  let rest := ls.dropWhile (!isTextLine ·)
  have starts : ∀ line ∈ rest.head?, isTextLine line = true := by
    intro line first
    simpa using head?_dropWhile (!isTextLine ·) ls line first
  refine ⟨ls.takeWhile (!isTextLine ·), rest.takeWhile isTextLine, rest.dropWhile isTextLine, ?_, ?_, ?_, ?_, ?_⟩
  · rw [List.takeWhile_append_dropWhile, List.takeWhile_append_dropWhile]
  · intro line member
    simpa using List.mem_takeWhile_imp member
  · exact fun line => List.mem_takeWhile_imp
  · exact head?_dropWhile isTextLine rest
  · intro none
    cases shape : rest with
    | nil => rfl
    | cons line more => simp [shape, starts line (by simp [shape])] at none

theorem FirstRun.eq_nil_iff (first : FirstRun ls before run after) :
    run = [] ↔ ∀ line ∈ ls, isTextLine line = false := by
  rw [first.split]
  constructor
  · intro none
    rw [none, first.found none, List.append_nil, List.append_nil]
    exact first.none_before
  · intro none
    apply List.eq_nil_iff_forall_not_mem.mpr
    intro line member
    have plain := none line (by simp [member])
    rw [first.text line member] at plain
    contradiction

/-- The lines before the first blank one, without the headings among them. -/
def joined (ls : List (List Char)) : List (List Char) :=
  (ls.takeWhile (!isBlankText ·)).filter (!isHeadingLine ·)

/-- A line of text comes directly after headings, if after anything. -/
def ResumesAfterHeadings (ls : List (List Char)) : Prop :=
  ∃ headings line rest, ls = headings ++ line :: rest ∧ (∀ heading ∈ headings, isHeadingLine heading = true) ∧
    isTextLine line = true

theorem not_isBlankText_of_heading (heading : isHeadingLine line = true) : isBlankText line = false := by
  obtain ⟨rest, rfl⟩ : ∃ rest, line = '#' :: rest := by
    cases line with
    | nil => simp [isHeadingLine] at heading
    | cons c rest => exact ⟨rest, by simpa [isHeadingLine] using heading⟩
  rfl

theorem joined_cons_of_heading (heading : isHeadingLine line = true) (rest : List (List Char)) :
    joined (line :: rest) = joined rest := by
  simp [joined, not_isBlankText_of_heading heading, heading]

theorem joined_eq_nil_iff : joined ls = [] ↔ ¬ResumesAfterHeadings ls := by
  induction ls with
  | nil => simp [joined, ResumesAfterHeadings]
  | cons line rest ih =>
    cases heading : isHeadingLine line with
    | true =>
      rw [joined_cons_of_heading heading, ih, not_iff_not]
      constructor
      · rintro ⟨headings, next, more, rfl, level, text⟩
        exact ⟨line :: headings, next, more, rfl, by simpa [heading] using level, text⟩
      · rintro ⟨headings, next, more, same, level, text⟩
        cases headings with
        | nil =>
          obtain ⟨rfl, rfl⟩ := List.cons.inj same
          simp [isTextLine, heading] at text
        | cons first others =>
          obtain ⟨rfl, rfl⟩ := List.cons.inj same
          exact ⟨others, next, more, rfl, fun other member => level other (by simp [member]), text⟩
    | false =>
      have opens : ResumesAfterHeadings (line :: rest) ↔ isTextLine line = true := by
        constructor
        · rintro ⟨headings, next, more, same, level, text⟩
          cases headings with
          | nil =>
            obtain ⟨rfl, rfl⟩ := List.cons.inj same
            exact text
          | cons first others =>
            obtain ⟨rfl, rfl⟩ := List.cons.inj same
            rw [level line (by simp)] at heading
            contradiction
        · exact fun text => ⟨[], line, rest, rfl, by simp, text⟩
      rw [opens]
      cases blank : isBlankText line <;> simp [joined, isTextLine, heading, blank]

/-- A selection that keeps what ends a run ends where the run does. -/
theorem takeWhile_filter {α : Type} {keep inside : α → Bool} (kept : ∀ item, inside item = false → keep item = true)
    (items : List α) : (items.filter keep).takeWhile inside = (items.takeWhile inside).filter keep := by
  induction items with
  | nil => rfl
  | cons item rest ih =>
    cases here : inside item with
    | true => cases selected : keep item <;> simp [selected, here, ih]
    | false => simp [kept item here, here]

theorem paragraph_eq (s : List Char) :
    paragraph s = ((((lines s).filter (!isHeadingLine ·)).dropWhile isBlankText).takeWhile (!isBlankText ·)).map
      trim := by
  have blank : (List.isEmpty ∘ trim) = isBlankText := by
    funext line
    rw [Bool.eq_iff_iff, Function.comp_apply, List.isEmpty_iff, trim_eq_nil_iff]
  have filled : ((fun line : List Char => !line.isEmpty) ∘ trim) = (!isBlankText ·) := by
    rw [← blank]
    rfl
  rw [paragraph, List.dropWhile_map, List.takeWhile_map, blank, filled]
  rfl

/-- The paragraph is the first run of lines of text, and the lines of text after it that no blank line parts from
it. -/
theorem FirstRun.paragraph_eq {s : List Char} (first : FirstRun (lines s) before run after) :
    paragraph s = (run ++ joined after).map trim := by
  have silent : ∀ line ∈ before.filter (!isHeadingLine ·), isBlankText line = true := by
    intro line member
    obtain ⟨early, level⟩ := List.mem_filter.mp member
    have plain := first.none_before line early
    rw [isTextLine, level, Bool.and_true] at plain
    simpa using plain
  have whole : run.filter (!isHeadingLine ·) = run := by
    rw [List.filter_eq_self]
    intro line member
    exact (Bool.and_eq_true _ _ ▸ first.text line member).2
  have kept : (lines s).filter (!isHeadingLine ·) =
      before.filter (!isHeadingLine ·) ++ (run ++ after.filter (!isHeadingLine ·)) := by
    rw [first.split, List.filter_append, List.filter_append, whole]
  cases run with
  | nil =>
    rw [first.found rfl] at kept ⊢
    rw [Guide.paragraph_eq, kept, List.dropWhile_append_of_pos silent]
    rfl
  | cons line more =>
    have filled : ∀ other ∈ line :: more, (!isBlankText other) = true := fun other member =>
      (Bool.and_eq_true _ _ ▸ first.text other member).1
    have opens : ∀ other ∈ (line :: more ++ after.filter (!isHeadingLine ·)).head?, isBlankText other = false := by
      simpa using filled line
    have stopped : ∀ other, (!isBlankText other) = false → (!isHeadingLine other) = true := by
      intro other blank
      cases heading : isHeadingLine other with
      | true => simp [not_isBlankText_of_heading heading] at blank
      | false => rfl
    rw [Guide.paragraph_eq, kept, dropWhile_run silent opens, List.takeWhile_append_of_pos filled,
      takeWhile_filter stopped, joined]

theorem intercalate_paragraph_eq_nil_iff {s : List Char} : [' '].intercalate (paragraph s) = [] ↔ paragraph s = [] := by
  have filled : ∀ line ∈ paragraph s, line ≠ [] := by
    intro line member
    simpa using List.mem_takeWhile_imp member
  cases shape : paragraph s with
  | nil => simp
  | cons line rest =>
    have shown := filled line (by simp [shape])
    cases rest <;> simp [shown]

/-- There is a brief exactly if there is a line of text. -/
theorem FirstRun.brief?_eq_none_iff {s : List Char} (first : FirstRun (lines s) before run after) :
    brief? s = none ↔ run = [] := by
  have nothing : paragraph s = [] ↔ run = [] := by
    rw [first.paragraph_eq, List.map_eq_nil_iff, List.append_eq_nil_iff]
    refine and_iff_left_of_imp ?_
    intro none
    rw [first.found none]
    rfl
  rw [← nothing, ← intercalate_paragraph_eq_nil_iff, ← (reduces_withoutLinks _).eq_nil_iff, brief?]
  split_ifs with empty
  · simpa using empty
  · simpa using empty

end Runs

/-- The brief of a guide and the first run of lines of text: the two agree exactly if no text follows upon the run
with nothing but headings in between. The text that does follow is joined to the run. -/
theorem brief_is_first_run_iff (s : List Char) : ∃ before run after, FirstRun (lines s) before run after ∧
    (brief? s = none ↔ ∀ line ∈ lines s, isTextLine line = false) ∧
    (∀ text ∈ brief? s, Reduces ([' '].intercalate (paragraph s)) text.toList) ∧
    paragraph s = (run ++ joined after).map trim ∧
    (paragraph s = run.map trim ↔ ¬ResumesAfterHeadings after) := by
  obtain ⟨before, run, after, first⟩ := exists_firstRun (lines s)
  refine ⟨before, run, after, first, ?_, ?_, first.paragraph_eq, ?_⟩
  · rw [first.brief?_eq_none_iff, first.eq_nil_iff]
  · intro text shown
    rw [brief?, Option.mem_def] at shown
    split_ifs at shown
    obtain rfl := Option.some.inj shown
    rw [String.toList_ofList]
    exact reduces_withoutLinks _
  · rw [first.paragraph_eq, List.map_append, List.append_right_eq_self, List.map_eq_nil_iff, joined_eq_nil_iff]

/-- A guide with a heading between its first two lines of text. -/
def interruptedGuide : List Char :=
  "Intro text.\n## Usage\nCall it.\n".toList

/-- The lines of a brief need not stand together: a heading between them is passed over. -/
theorem heading_does_not_end_brief :
    FirstRun (lines interruptedGuide) [] ["Intro text.".toList] ["## Usage".toList, "Call it.".toList] ∧
      ¬paragraph interruptedGuide <:+: (lines interruptedGuide).map trim ∧
      brief? interruptedGuide = some "Intro text. Call it." := by
  refine ⟨⟨by decide +kernel, ?_, ?_, ?_, ?_⟩, by decide +kernel, by decide +kernel⟩
  · simp
  · decide +kernel
  · decide +kernel
  · simp

end ApiAtlas.Guide
