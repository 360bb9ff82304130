import ApiAtlas.Text.Find
import ApiAtlas.Text.Scan
import ApiAtlas.Text.Word

/-! # Links of a guide

A link is a text in square brackets followed by a target in parentheses. The text ends at the first
closing bracket and is not empty. Reference pages are linked one directory up and one down, other
guides in the same directory or by way of the directory of guides.
-/

namespace ApiAtlas.Guide

open Text

/-- A link up to the parenthesis that opens its target: the text, and what follows. -/
def linkStart : Pattern (List Char)
  | '[' :: rest =>
    match splitOnce? ']' rest with
    | some (text, '(' :: target) => if text.isEmpty then none else some (text, target)
    | _ => none
  | _ => none

/-- The end of a target that names a page: a word, the file extension and the parenthesis. -/
def page : Pattern (List Char) := fun s =>
  let name := s.takeWhile isWord
  if name.isEmpty then none
  else (afterStart? ".md)".toList (s.dropWhile isWord)).map fun after => (name, after)

/-- The target of a link to a reference page: the page in some directory next to the guides. -/
def referenceTarget : Pattern (List Char) := fun s => do
  let directory ← afterStart? "../".toList s
  guard (!(directory.takeWhile isWord).isEmpty)
  let name ← afterStart? "/".toList (directory.dropWhile isWord)
  page name

/-- The target of a link to another guide. -/
def guideTarget : Pattern (List Char) := fun s =>
  match afterStart? "./".toList s with
  | some name => page name
  | none => (afterStart? "../topics/".toList s).bind page

/-- A target of any kind: what stands before the first closing parenthesis, if that is anything. -/
def anyTarget : Pattern (List Char) := fun s =>
  match splitOnce? ')' s with
  | some (target, after) => if target.isEmpty then none else some (target, after)
  | none => none

/-- A link with its text and what `target` reads from its target. -/
def link (target : Pattern (List Char)) : Pattern (List Char × List Char) := fun s => do
  let (text, rest) ← linkStart s
  let (value, after) ← target rest
  return ((text, value), after)

/-- The pages that links of a kind lead to, in order. -/
def linkedPages (target : Pattern (List Char)) (s : List Char) : List (List Char) :=
  (findAll (link target) s).map Prod.snd

/-- A text with every link reduced to the text of the link. -/
def withoutLinks (s : List Char) : List Char :=
  replaceAll (fun s => (link anyTarget s).map fun ((text, _), after) => (text, after)) s

end ApiAtlas.Guide
