import ApiAtlas.Guide.Section
import ApiAtlas.Proofs.Text.Trim
import Mathlib.Data.List.Infix

/-! # Sections of written guides

A guide is written as a preamble and sections, each with a heading line and a body. Reading the sections back is a
matter of lines: only the written headings open a section, so the lines between two of them are those of one body.
Bodies may be empty, have blank lines and headings of other levels, and a heading may follow upon a heading.
-/

namespace ApiAtlas.Guide

open Text

/-- A heading of level two: two number signs, blanks, and something after them. -/
def OpensSection (line : List Char) : Prop :=
  ∃ blanks title, line = '#' :: '#' :: (blanks ++ title) ∧ blanks ≠ [] ∧ (∀ c ∈ blanks, isBlank c = true) ∧ title ≠ []

theorem isSome_heading?_iff {line : List Char} : (heading? line).isSome ↔ OpensSection line := by
  constructor
  · intro announced
    rw [heading?.eq_def] at announced
    split at announced
    · rename_i blank c rest
      split at announced
      · rename_i white
        exact ⟨[blank], c :: rest, rfl, by simp, by simpa using white, by simp⟩
      · simp at announced
    · simp at announced
  · rintro ⟨blanks, title, rfl, some_blank, white, filled⟩
    obtain ⟨blank, more, rfl⟩ := List.exists_cons_of_ne_nil some_blank
    obtain ⟨c, rest, shape⟩ : ∃ c rest, more ++ title = c :: rest :=
      List.exists_cons_of_ne_nil (by simp [filled])
    rw [List.cons_append, shape, heading?, if_pos (white blank (by simp))]
    rfl

instance (line : List Char) : Decidable (OpensSection line) :=
  decidable_of_iff _ isSome_heading?_iff

theorem heading?_eq_none {line : List Char} (plain : ¬OpensSection line) : heading? line = none := by
  rwa [← isSome_heading?_iff, Option.not_isSome_iff_eq_none] at plain

theorem OpensSection.of_isPrefix {line longer : List Char} (opens : OpensSection line) (starts : line <+: longer) :
    OpensSection longer := by
  obtain ⟨blanks, title, rfl, some_blank, white, filled⟩ := opens
  obtain ⟨more, rfl⟩ := starts
  exact ⟨blanks, title ++ more, by simp, some_blank, white, by simp [filled]⟩

/-- A section with a title of one line and a body that no other section begins in. Neither has blanks around it. -/
structure PortableSection (part : GuideSection) : Prop where
  titled : part.title ≠ ""
  title_trimmed : trim part.title.toList = part.title.toList
  one_line : '\n' ∉ part.title.toList
  body_trimmed : trim part.body.toList = part.body.toList
  plain : ∀ line ∈ lines part.body.toList, ¬OpensSection line
  returnless : ¬['\r', '\n'] <:+: part.body.toList

instance (part : GuideSection) : Decidable (PortableSection part) :=
  decidable_of_iff (part.title ≠ "" ∧ trim part.title.toList = part.title.toList ∧ '\n' ∉ part.title.toList ∧
    trim part.body.toList = part.body.toList ∧ (∀ line ∈ lines part.body.toList, ¬OpensSection line) ∧
    ¬['\r', '\n'] <:+: part.body.toList)
    ⟨fun ⟨titled, title, line, body, plain, returnless⟩ => ⟨titled, title, line, body, plain, returnless⟩,
      fun portable => ⟨portable.titled, portable.title_trimmed, portable.one_line, portable.body_trimmed,
        portable.plain, portable.returnless⟩⟩

def writeHeading (part : GuideSection) : List Char :=
  "## ".toList ++ part.title.toList

/-- The heading and the body of a section, each closed by a line feed. -/
def writeSection (part : GuideSection) : List Char :=
  writeHeading part ++ '\n' :: (part.body.toList ++ ['\n'])

/-- A guide: what comes before the sections, closed by a line feed, and the sections. -/
def writeSections (preamble : List Char) (parts : List GuideSection) : List Char :=
  preamble ++ '\n' :: parts.flatMap writeSection

/-- The pieces of a text between line feeds, once they are closed, open a section only if a line of the text does. -/
theorem plain_of_closed {s : List Char} (plain : ∀ line ∈ lines s, ¬OpensSection line) :
    ∀ line ∈ (splitBy (· == '\n') s).map dropReturn, ¬OpensSection line := by
  obtain ⟨closed, last, split⟩ : ∃ closed last, splitBy (· == '\n') s = closed ++ [last] := by
    rcases List.eq_nil_or_concat (splitBy (· == '\n') s) with none | ⟨closed, last, shape⟩
    · exact absurd none (splitBy_ne_nil s)
    · exact ⟨closed, last, by rw [shape, List.concat_eq_append]⟩
  rw [lines, split, closeLines_append _ (by simp)] at plain
  rw [split, List.map_append]
  intro line member opens
  rcases List.mem_append.mp member with earlier | final
  · exact plain line (List.mem_append_left _ earlier) opens
  · obtain rfl : line = dropReturn last := by simpa using final
    -- The last piece has kept its carriage return, and a longer line opens a section all the more.
    have longer := opens.of_isPrefix (dropReturn_isPrefix last)
    have filled : last ≠ [] := by
      rintro rfl
      exact absurd longer (by decide)
    exact plain last (List.mem_append_right _ (by simp [closeLines, filled])) longer

/-- Lines that are joined without a carriage return before a line feed or at the end have none at their ends. -/
theorem returnless_of_joinLines {ls : List (List Char)} (inside : ¬['\r', '\n'] <:+: joinLines ls)
    (ends : (joinLines ls).getLast? ≠ some '\r') : ∀ line ∈ ls, line.getLast? ≠ some '\r' := by
  induction ls with
  | nil => simp
  | cons line rest ih =>
    cases rest with
    | nil => simpa using ends
    | cons next more =>
      rw [joinLines_cons_cons] at inside ends
      rw [List.forall_mem_cons]
      constructor
      · intro returned
        obtain ⟨front, rfl⟩ := List.getLast?_eq_some_iff.mp returned
        exact inside ⟨front, joinLines (next :: more), by simp⟩
      · apply ih
        · exact fun found => inside (List.infix_append_of_infix_right (List.infix_cons found))
        · intro returned
          apply ends
          rw [List.getLast?_append, List.getLast?_cons, returned]
          rfl

/-- No line of a portable body loses a carriage return. -/
theorem PortableSection.closed_body {part : GuideSection} (portable : PortableSection part) :
    (splitBy (· == '\n') part.body.toList).map dropReturn = splitBy (· == '\n') part.body.toList := by
  have ends : part.body.toList.getLast? ≠ some '\r' := fun returned =>
    absurd (getLast_of_trim_eq_self portable.body_trimmed '\r' returned) (by decide)
  have inside := portable.returnless
  rw [← joinLines_splitBy part.body.toList] at ends inside
  have same : ∀ line ∈ splitBy (· == '\n') part.body.toList, dropReturn line = line :=
    fun line member => dropReturn_eq_self (returnless_of_joinLines inside ends line member)
  rw [List.map_congr_left same, List.map_id']

/-- The heading of a section is one line, with no carriage return at its end. -/
theorem PortableSection.closed_heading {part : GuideSection} (portable : PortableSection part) :
    (splitBy (· == '\n') (writeHeading part)).map dropReturn = [writeHeading part] := by
  have free : '\n' ∉ writeHeading part := by simpa [writeHeading] using portable.one_line
  have filled : part.title.toList ≠ [] := by simpa using portable.titled
  have ends : (writeHeading part).getLast? ≠ some '\r' := by
    rw [writeHeading, List.getLast?_append_of_ne_nil _ filled]
    intro returned
    exact absurd (getLast_of_trim_eq_self portable.title_trimmed '\r' returned) (by decide)
  rw [splitBy_feed_of_free free, List.map_singleton, dropReturn_eq_self ends]

theorem PortableSection.lines_eq {part : GuideSection} (portable : PortableSection part) (rest : List Char) :
    lines (writeSection part ++ rest) =
      writeHeading part :: (splitBy (· == '\n') part.body.toList ++ lines rest) := by
  have written : writeSection part ++ rest = writeHeading part ++ '\n' :: (part.body.toList ++ '\n' :: rest) := by
    simp [writeSection]
  rw [written, lines_append_feed, lines_append_feed, portable.closed_heading, portable.closed_body]
  rfl

theorem PortableSection.heading?_eq {part : GuideSection} (portable : PortableSection part) :
    heading? (writeHeading part) = some part.title.toList := by
  obtain ⟨c, rest, shape⟩ := List.exists_cons_of_ne_nil (show part.title.toList ≠ [] by simpa using portable.titled)
  have written : writeHeading part = '#' :: '#' :: ' ' :: c :: rest := by rw [writeHeading, shape]; rfl
  rw [written, heading?, if_pos (by decide), ← shape, portable.title_trimmed]

/-- The lines of written sections fall into the sections. -/
theorem groupBy_heading? {parts : List GuideSection} (portable : ∀ part ∈ parts, PortableSection part) :
    groupBy heading? (lines (parts.flatMap writeSection)) =
      ([], parts.map fun part => (part.title.toList, splitBy (· == '\n') part.body.toList)) := by
  induction parts with
  | nil => rfl
  | cons part rest ih =>
    rw [List.forall_mem_cons] at portable
    have plain : ∀ line ∈ splitBy (· == '\n') part.body.toList, heading? line = none := by
      rw [← portable.1.closed_body]
      exact fun line member => heading?_eq_none (plain_of_closed portable.1.plain line member)
    rw [List.flatMap_cons, portable.1.lines_eq, groupBy_cons_of_eq_some portable.1.heading?_eq,
      groupBy_append_of_plain plain, ih portable.2, List.append_nil]
    rfl

/-- Reading the sections of a written guide gives the sections back. -/
theorem sections_read_back {preamble : List Char} {parts : List GuideSection}
    (plain : ∀ line ∈ lines preamble, ¬OpensSection line) (portable : ∀ part ∈ parts, PortableSection part) :
    sections (writeSections preamble parts) = parts := by
  have before : ∀ line ∈ (splitBy (· == '\n') preamble).map dropReturn, heading? line = none :=
    fun line member => heading?_eq_none (plain_of_closed plain line member)
  rw [sections, writeSections, lines_append_feed, groupBy_append_of_plain before, groupBy_heading? portable,
    List.map_map]
  refine (List.map_congr_left ?_).trans (List.map_id parts)
  intro part member
  simp [joinLines_splitBy, (portable part member).body_trimmed]

/-- Headings of other levels, number signs without a blank, blank lines, and a section without a body. -/
def sampleSections : List GuideSection :=
  [⟨"Music", "Load a track.\n\n### Formats\n## \n##ogg"⟩, ⟨"Empty", ""⟩, ⟨"## Sound\rFX", "#\n ## Not here"⟩]

theorem sections_read_back_sampleSections :
    (∀ line ∈ lines "# Audio\r\n##\r\n## \n\r".toList, ¬OpensSection line) ∧
      (∀ part ∈ sampleSections, PortableSection part) ∧
      sections (writeSections "# Audio\r\n##\r\n## \n\r".toList sampleSections) = sampleSections := by
  have plain : ∀ line ∈ lines "# Audio\r\n##\r\n## \n\r".toList, ¬OpensSection line := by decide +kernel
  have portable : ∀ part ∈ sampleSections, PortableSection part := by decide +kernel
  exact ⟨plain, portable, sections_read_back plain portable⟩

end ApiAtlas.Guide
