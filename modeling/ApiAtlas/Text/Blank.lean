/-! # Blank characters, trimming and words

Blank characters are those with the White_Space property. Trimming removes them from the ends of a
text, and words are the maximal runs between them. Texts are lists of characters; `String` is only
used to store finished values.
-/

namespace ApiAtlas.Text

/-- Spaces, tabs, line breaks and the other white space of every script. -/
def isBlank (c : Char) : Bool :=
  let n := c.toNat
  n == 0x20 || (decide (9 ≤ n) && decide (n ≤ 13)) || n == 0x85 || n == 0xA0 || n == 0x1680 ||
    (decide (0x2000 ≤ n) && decide (n ≤ 0x200A)) || n == 0x2028 || n == 0x2029 || n == 0x202F ||
    n == 0x205F || n == 0x3000

/-- Drop the blanks in front. -/
def trimStart (s : List Char) : List Char :=
  s.dropWhile isBlank

/-- Drop the last characters as long as they satisfy `p`. -/
def dropEndWhile (p : Char → Bool) (s : List Char) : List Char :=
  (s.reverse.dropWhile p).reverse

/-- Drop the blanks at the end. -/
def trimEnd (s : List Char) : List Char :=
  dropEndWhile isBlank s

/-- Drop the blanks at both ends. -/
def trim (s : List Char) : List Char :=
  trimEnd (trimStart s)

/-- Whether a text has nothing but blanks. -/
def isBlankText (s : List Char) : Bool :=
  s.all isBlank

/-- The pieces of a text between separators: `n` separators give `n + 1` pieces. -/
def splitBy (isSeparator : Char → Bool) : List Char → List (List Char)
  | [] => [[]]
  | c :: rest =>
    if isSeparator c then [] :: splitBy isSeparator rest
    else match splitBy isSeparator rest with
      | [] => [[c]]
      | piece :: pieces => (c :: piece) :: pieces

/-- The maximal runs of characters that are not blank. -/
def words (s : List Char) : List (List Char) :=
  (splitBy isBlank s).filter fun piece => !piece.isEmpty

end ApiAtlas.Text
