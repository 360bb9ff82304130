import ApiAtlas.Catalog.Basic
import ApiAtlas.Search.Keyword

/-! # Functions that use a type

A function takes a type if the type occurs in its first parenthesised list, and returns it if the
type occurs in the text before its name. Case does not matter.
-/

namespace ApiAtlas

open Text

/-- Which side of a signature to look at. -/
inductive Direction where
  | input
  | output
  | both
deriving DecidableEq, Repr, Inhabited

namespace Direction

/-- All directions. -/
def all : List Direction := [input, output, both]

/-- The name of a direction. -/
def label : Direction → String
  | input => "input"
  | output => "output"
  | both => "both"

/-- Whether parameters are looked at. -/
def includesInput : Direction → Bool
  | output => false
  | _ => true

/-- Whether return types are looked at. -/
def includesOutput : Direction → Bool
  | input => false
  | _ => true

end Direction

/-- The functions that take a type, and those that return it. -/
structure TypeUsage where
  inputs : List Record
  outputs : List Record
deriving DecidableEq, Repr

namespace Signature

/-- What stands before and after each occurrence of a text, from left to right and without overlap.
`before` is the text already passed, in reverse, and the next `skip` characters belong to the last
occurrence. -/
def occurrencesFrom (needle : List Char) (before : List Char) (skip : Nat) :
    List Char → List (List Char × List Char)
  | [] => if skip = 0 && needle.isEmpty then [(before.reverse, [])] else []
  | c :: rest =>
    match skip with
    | skip + 1 => occurrencesFrom needle (c :: before) skip rest
    | 0 =>
      if needle.isPrefixOf (c :: rest) then
        (before.reverse, (c :: rest).drop needle.length) ::
          occurrencesFrom needle (c :: before) (needle.length - 1) rest
      else occurrencesFrom needle (c :: before) 0 rest

/-- What stands before and after each occurrence of a text. -/
def occurrences (needle s : List Char) : List (List Char × List Char) :=
  occurrencesFrom needle [] 0 s

/-- The text before an occurrence of a function's name, if that is where the name is declared:
after a blank or a star, and before an opening parenthesis. -/
def returnTypeAt? (before after : List Char) : Option (List Char) :=
  let separated := before.getLast?.any fun c => isBlank c || c == '*'
  let type := trimEnd before
  if separated && (trimStart after).head? == some '(' && !type.isEmpty then some type else none

/-- The return type in the signature of the function with a name. -/
def returnType? (name signature : List Char) : Option (List Char) :=
  (occurrences name signature).findSome? fun (before, after) => returnTypeAt? before after

/-- The text between the first opening parenthesis and the first closing one after it. -/
def parameterList? (signature : List Char) : Option (List Char) := do
  let (_, rest) ← splitOnce? '(' signature
  let (parameters, _) ← splitOnce? ')' rest
  return parameters

/-- Whether a lower-case type occurs in a part of a signature. -/
def mentions (type : List Char) (part : Option (List Char)) : Bool :=
  part.any fun text => occursIn type (lowercase text)

end Signature

namespace Catalog

open Signature

/-- The functions that satisfy a condition on their name and signature. -/
def functionsWith (catalog : Catalog) (condition : List Char → List Char → Bool) : List Record :=
  (catalog.ofKind .function).filter fun record =>
    record.signature?.any fun signature => condition record.name.toList signature.toList

/-- The functions that use a type. -/
def typeUsage (catalog : Catalog) (typeName : String) (direction : Direction) : TypeUsage :=
  let type := lowercase typeName.toList
  { inputs := if direction.includesInput then
      catalog.functionsWith fun _ signature => mentions type (parameterList? signature)
      else []
    outputs := if direction.includesOutput then
      catalog.functionsWith fun name signature => mentions type (returnType? name signature)
      else [] }

end Catalog

end ApiAtlas
