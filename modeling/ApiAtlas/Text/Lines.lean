import ApiAtlas.Text.Blank

/-! # Lines

A text is cut into lines at line feeds. A carriage return directly before a line feed belongs to
the line end; one at the very end of the text does not. A line feed at the end of the text closes
the last line and opens none.
-/

namespace ApiAtlas.Text

/-- Drop one carriage return at the end of a line. -/
def dropReturn (line : List Char) : List Char :=
  if line.getLast? = some '\r' then line.dropLast else line

/-- Lines from the pieces between line feeds: every piece but the last was closed by one. -/
def closeLines : List (List Char) → List (List Char)
  | [] => []
  | [last] => if last.isEmpty then [] else [last]
  | piece :: pieces => dropReturn piece :: closeLines pieces

/-- The lines of a text. -/
def lines (s : List Char) : List (List Char) :=
  closeLines (splitBy (· == '\n') s)

/-- Number of line feeds. -/
def lineFeeds (s : List Char) : Nat :=
  s.count '\n'

/-- Lines joined by single line feeds. -/
def joinLines (ls : List (List Char)) : List Char :=
  ['\n'].intercalate ls

@[simp]
theorem lineFeeds_append (s t : List Char) : lineFeeds (s ++ t) = lineFeeds s + lineFeeds t := by
  simp [lineFeeds]

end ApiAtlas.Text
