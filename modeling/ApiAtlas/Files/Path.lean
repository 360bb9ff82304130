import ApiAtlas.Text.Blank

/-! # Paths

A path is written as names between slashes. Repeated slashes, inner single dots and a slash at the
end do not count as components; a leading slash or a leading single dot does. Messages show a path
as it was written, so the written text is kept and parts of it are taken by position.
-/

namespace ApiAtlas

/-- The parts of a path. -/
inductive PathComponent where
  | root
  | current
  | parent
  | normal (name : String)
deriving DecidableEq, Repr

namespace Path

open Text

/-- The pieces between the slashes of a path. -/
def pieces (path : String) : List String :=
  (splitBy (· == '/') path.toList).map String.ofList

/-- Whether a path starts at the root. -/
def isAbsolute (path : String) : Bool :=
  path.toList.head? == some '/'

/-- The component that a piece stands for, if it counts. -/
def component? (piece : String) : Option PathComponent :=
  if piece = "" || piece = "." then none
  else if piece = ".." then some .parent
  else some (.normal piece)

/-- What a path starts with: the root, the current directory, or nothing of the kind. -/
def leading (path : String) : List PathComponent :=
  if isAbsolute path then [.root]
  else if (pieces path).head? = some "." then [.current]
  else []

/-- The components of a path. -/
def components (path : String) : List PathComponent :=
  leading path ++ (pieces path).filterMap component?

/-- A path extended by another one. An absolute path replaces the one it extends. -/
def join (base path : String) : String :=
  if isAbsolute path then path
  else if base = "" || base.toList.getLast? = some '/' then base ++ path
  else base ++ "/" ++ path

/-- Pieces without those at the end that do not count. The first piece always counts. -/
def trimPieces : List String → List String
  | [] => []
  | first :: rest =>
    first :: ((rest.reverse.dropWhile fun piece => piece == "" || piece == ".").reverse)

/-- The text of pieces. -/
def ofPieces (pieces : List String) : String :=
  if pieces = [""] then "/" else "/".intercalate pieces

/-- A path without its last component. The root and the empty path have none. -/
def parent? (path : String) : Option String :=
  match (components path).getLast? with
  | none => none
  | some .root => none
  | some _ => some (ofPieces (trimPieces (trimPieces (pieces path)).dropLast))

/-- The names on the way from the root to where a path leads from a starting directory, on the
assumption that every step of it can be taken. -/
def place (start : List String) (path : String) : List String :=
  (pieces path).foldl
    (fun names piece =>
      if piece = "" || piece = "." then names
      else if piece = ".." then names.dropLast
      else names ++ [piece])
    (if isAbsolute path then [] else start)

/-- The name that a path ends with. -/
def fileName? (path : String) : Option String :=
  match (components path).getLast? with
  | some (.normal name) => some name
  | _ => none

/-- The part of a file name before its last dot, and the part after it. A dot in front does not
count, so a name such as `.h` has no extension. -/
def splitExtension (name : String) : String × Option String :=
  let reversed := name.toList.reverse
  let extension := reversed.takeWhile (· != '.')
  match reversed.drop extension.length with
  | _ :: stem =>
    if stem.isEmpty then (name, none)
    else (String.ofList stem.reverse, some (String.ofList extension.reverse))
  | [] => (name, none)

/-- The extension of a file name. -/
def extension? (name : String) : Option String := (splitExtension name).2

/-- A file name without its extension. -/
def stem (name : String) : String := (splitExtension name).1

end Path

end ApiAtlas
