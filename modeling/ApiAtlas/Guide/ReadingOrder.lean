import ApiAtlas.Guide.Link
import ApiAtlas.Text.Blank
import ApiAtlas.Text.Digit

/-! # The reading order

The page that lists the guides numbers them: a line begins with a number, a full stop and blanks,
and a link to a guide in the same directory follows. The written numbers do not matter; guides are
counted from zero in the order of the list, and of several items for a guide the last one counts.
-/

namespace ApiAtlas.Guide

open Text

/-- A numbered item after a line feed: the guide that it links to. -/
def orderItem : Pattern (List Char)
  | '\n' :: line => do
    guard (!(line.takeWhile isDigit).isEmpty)
    let gap ← afterStart? ['.'] (line.dropWhile isDigit)
    guard (!(gap.takeWhile isBlank).isEmpty)
    let (_, target) ← linkStart (trimStart gap)
    let name ← afterStart? "./".toList target
    page name
  | _ => none

/-- The guides of a list, in order and with repetitions. -/
def orderedGuides (s : List Char) : List String :=
  (findAll orderItem ('\n' :: s)).map String.ofList

/-- The position of the last item for a guide. -/
def position? (guide : String) (guides : List String) : Option Nat :=
  ((guides.zipIdx.filter fun (name, _) => name == guide).getLast?).map Prod.snd

/-- Each guide of a list once, with its position. -/
def positions (guides : List String) : List (String × Nat) :=
  guides.eraseDups.filterMap fun guide => (position? guide guides).map fun n => (guide, n)

end ApiAtlas.Guide
