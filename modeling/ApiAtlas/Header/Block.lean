import ApiAtlas.Text.Group
import ApiAtlas.Text.Lines
import ApiAtlas.Text.Scan

/-! # Documentation blocks of a header

A documentation block is a comment that opens with a slash and two stars. It ends at the first
closing mark after those three characters, and it owns the code up to the next block. An opening
without a closing mark after it opens nothing.
-/

namespace ApiAtlas.Header

open Text

/-- A documentation comment, the code it owns, and the line its opening stands on. -/
structure Block where
  line : Nat
  comment : List Char
  code : List Char
deriving DecidableEq, Repr

/-- The text up to and including the first closing mark, and the text after it. -/
def closing? : List Char → Option (List Char × List Char)
  | [] => none
  | '*' :: '/' :: rest => some (['*', '/'], rest)
  | c :: rest => (closing? rest).map fun (inside, after) => (c :: inside, after)

/-- A documentation comment at the beginning of a text. -/
def commentPattern : Pattern (List Char)
  | '/' :: '*' :: '*' :: body =>
    (closing? body).map fun (inside, after) => ('/' :: '*' :: '*' :: inside, after)
  | _ => none

/-- Comments with the code they own, each put on the line where it opens. `feeds` line feeds stand
before the first one. -/
def numberBlocks (feeds : Nat) : List (List Char × List Char) → List Block
  | [] => []
  | (comment, code) :: rest =>
    ⟨feeds + 1, comment, code⟩ :: numberBlocks (feeds + lineFeeds comment + lineFeeds code) rest

/-- The documentation comments of a header, each with the code up to the next one, and the text
before the first. -/
def comments (s : List Char) : List Char × List (List Char × List Char) :=
  let (before, groups) := groupBy Sum.getRight? (scan commentPattern s)
  let plain := fun pieces : List (Char ⊕ List Char) => pieces.filterMap Sum.getLeft?
  (plain before, groups.map fun (comment, code) => (comment, plain code))

/-- The documentation blocks of a header, in order. -/
def blocks (s : List Char) : List Block :=
  let (before, found) := comments s
  numberBlocks (lineFeeds before) found

end ApiAtlas.Header
