import ApiAtlas.Record
import ApiAtlas.Text.Group
import ApiAtlas.Text.Lines

/-! # Sections and brief of a guide

A section starts at a heading of level two and runs to the next one. The brief is made from the
first paragraph: headings of any level are passed over, wherever they stand, and blank lines before
the paragraph too; the first blank line after it ends it.
-/

namespace ApiAtlas.Guide

open Text

/-- The title of a heading of level two: two number signs, a blank, and at least one more
character. -/
def heading? : List Char → Option (List Char)
  | '#' :: '#' :: blank :: c :: rest =>
    if isBlank blank then some (trim (c :: rest)) else none
  | _ => none

/-- The sections of a guide, in order. What stands before the first heading belongs to none. -/
def sections (s : List Char) : List GuideSection :=
  (groupBy heading? (lines s)).2.map fun (title, body) =>
    ⟨String.ofList title, String.ofList (trim (joinLines body))⟩

/-- The trimmed lines of the first paragraph. -/
def paragraph (s : List Char) : List (List Char) :=
  let text := ((lines s).filter fun line => line.head? != some '#').map trim
  (text.dropWhile List.isEmpty).takeWhile fun line => !line.isEmpty

end ApiAtlas.Guide
