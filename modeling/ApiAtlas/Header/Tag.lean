import ApiAtlas.Text.Group
import ApiAtlas.Text.Lines
import ApiAtlas.Text.Word
import ApiAtlas.Record

/-! # Tags of a documentation comment

A tag is a line of the comment that starts with an at sign and a word, once the comment marks are
taken off. Its value runs from there to the next tag and is trimmed. Parameters and related names
add up over repeated tags; of every other tag the last one counts, and an empty value counts as
no value.
-/

namespace ApiAtlas.Header

open Text

/-- One tag with its trimmed value. -/
structure Tag where
  name : String
  value : List Char
deriving DecidableEq, Repr

/-- Take a closing mark, and the blanks around it, off the end of a line. -/
def stripClosing (line : List Char) : List Char :=
  match line.reverse.dropWhile isBlank with
  | '/' :: '*' :: rest => ((rest.dropWhile (· == '*')).dropWhile isBlank).reverse
  | _ => line

/-- Drop a slash in front. -/
def dropSlash : List Char → List Char
  | '/' :: rest => rest
  | s => s

/-- Drop one blank in front. -/
def dropBlank : List Char → List Char
  | [] => []
  | c :: rest => if isBlank c then rest else c :: rest

/-- Take the leading stars, an opening slash before them and one blank after them off a line. -/
def stripMargin (line : List Char) : List Char :=
  match dropSlash (trimStart line) with
  | '*' :: rest => dropBlank (rest.dropWhile (· == '*'))
  | _ => line

/-- The text of a comment line without its comment marks. -/
def commentText (line : List Char) : List Char :=
  stripMargin (stripClosing line)

/-- The name of the tag that a line starts, and the first line of its value. -/
def tagStart? (line : List Char) : Option (List Char × List Char) :=
  match trimStart line with
  | '@' :: rest =>
    let name := rest.takeWhile isWord
    if name.isEmpty then none else some (name, trim (rest.dropWhile isWord))
  | _ => none

/-- The tags of a comment, in order. What stands before the first tag belongs to none. -/
def tags (comment : List Char) : List Tag :=
  (groupBy tagStart? ((lines comment).map commentText)).2.map fun ((name, first), more) =>
    ⟨String.ofList name, trim (joinLines (first :: more))⟩

/-- The values of a tag, in order. -/
def valuesOf (name : String) (tags : List Tag) : List (List Char) :=
  (tags.filter fun tag => tag.name == name).map Tag.value

/-- The value of a tag that counts once: the last one, if it is not empty. -/
def value? (name : String) (tags : List Tag) : Option String :=
  ((valuesOf name tags).getLast?.filter fun value => !value.isEmpty).map String.ofList

/-- A parameter: a word, and after blanks its description. Any other value describes none. -/
def parameter? (value : List Char) : Option Parameter :=
  let name := value.takeWhile isWord
  if name.isEmpty then none
  else match value.dropWhile isWord with
    | [] => some ⟨String.ofList name, ""⟩
    | c :: rest => if isBlank c then some ⟨String.ofList name, String.ofList (trim rest)⟩ else none

/-- A word of nothing but slashes and stars is left over from comment marks. -/
def isCommentMark (word : List Char) : Bool :=
  word.all fun c => c == '/' || c == '*'

/-- The parameters of all parameter tags. -/
def parameters (tags : List Tag) : List Parameter :=
  (valuesOf "param" tags).filterMap parameter?

/-- The names of all tags for related items. -/
def relatedNames (tags : List Tag) : List String :=
  ((valuesOf "related" tags).flatMap words).filterMap fun word =>
    if isCommentMark word then none else some (String.ofList word)

end ApiAtlas.Header
