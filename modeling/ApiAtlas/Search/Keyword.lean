import ApiAtlas.Text.Blank
import ApiAtlas.Text.Find
import ApiAtlas.Text.Lowercase

/-! # Keywords

A search text is a bag of keywords: its words in lower case. A word that occurs twice counts twice.
-/

namespace ApiAtlas.Search

open Text

/-- The keywords of a search text. -/
def keywords (text : String) : List (List Char) :=
  (words text.toList).map lowercase

/-- A text without keywords. -/
def isBlankQuery (text : String) : Bool :=
  isBlankText text.toList

/-- Whether a lower-case text occurs in another one, whatever the case of that. -/
def containsLower (needle : List Char) (text : String) : Bool :=
  occursIn needle (lowercase text.toList)

/-- Whether a lower-case text occurs in a field that may be absent. -/
def fieldContains (needle : List Char) (field : Option String) : Bool :=
  field.any (containsLower needle)

end ApiAtlas.Search
