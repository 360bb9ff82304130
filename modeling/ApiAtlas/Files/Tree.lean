import ApiAtlas.Files.Path
import ApiAtlas.StableSort

/-! # File trees

A tree of directories and plain files. A place in the tree is the list of the names on the way to
it from the root; the root itself is always a directory. Written paths are followed through the
tree from a starting directory, as they stand: every step has to start from a directory, and two
dots lead to the directory above.
-/

namespace ApiAtlas

/-- What stands at a place. -/
inductive FileEntry where
  | directory
  | file (bytes : ByteArray)

/-- Places with what stands there. -/
structure FileTree where
  entries : List (List String × FileEntry)

namespace FileTree

/-- The tree with nothing in it. -/
def empty : FileTree := ⟨[]⟩

/-- What stands at a place. -/
def entry? (tree : FileTree) (place : List String) : Option FileEntry :=
  if place = [] then some .directory
  else (tree.entries.find? fun (spot, _) => spot == place).map Prod.snd

/-- Whether a place is a directory. -/
def isDirectory (tree : FileTree) (place : List String) : Bool :=
  match tree.entry? place with
  | some .directory => true
  | _ => false

/-- The bytes of the file at a place. -/
def bytes? (tree : FileTree) (place : List String) : Option ByteArray :=
  match tree.entry? place with
  | some (.file bytes) => some bytes
  | _ => none

/-- Put something at a place, in place of what stood there. -/
def put (tree : FileTree) (place : List String) (entry : FileEntry) : FileTree :=
  ⟨(tree.entries.filter fun (spot, _) => spot != place) ++ [(place, entry)]⟩

/-- Take away a place with everything below it. -/
def remove (tree : FileTree) (place : List String) : FileTree :=
  ⟨tree.entries.filter fun (spot, _) => !place.isPrefixOf spot⟩

/-- The places below a directory, relative to it. -/
def below (tree : FileTree) (place : List String) : List (List String × FileEntry) :=
  tree.entries.filterMap fun (spot, entry) =>
    if place.isPrefixOf spot && spot != place then some (spot.drop place.length, entry) else none

/-- Whether a directory has anything in it. -/
def isPopulated (tree : FileTree) (place : List String) : Bool :=
  tree.isDirectory place && !(tree.below place).isEmpty

/-- Make a directory and the ones above it. This fails where a plain file is in the way. -/
def makeDirectories (tree : FileTree) : List String → List String → Option FileTree
  | done, [] => if tree.isDirectory done then some tree else none
  | done, name :: names =>
    let place := done ++ [name]
    match tree.entry? place with
    | some .directory => tree.makeDirectories place names
    | some (.file _) => none
    | none => (tree.put place .directory).makeDirectories place names

/-- One step along a path, from a directory. -/
def step? (tree : FileTree) (place : List String) (piece : String) : Option (List String) :=
  if !tree.isDirectory place then none
  else if piece = "" || piece = "." then some place
  else if piece = ".." then some place.dropLast
  else if (tree.entry? (place ++ [piece])).isSome then some (place ++ [piece])
  else none

/-- The place that a written path leads to, if something stands there. -/
def resolve? (tree : FileTree) (start : List String) (path : String) : Option (List String) :=
  if path = "" then none
  else (Path.pieces path).foldlM tree.step? (if Path.isAbsolute path then [] else start)

/-- Whether a written path leads to a directory. -/
def isDirectoryAt (tree : FileTree) (start : List String) (path : String) : Bool :=
  (tree.resolve? start path).any tree.isDirectory

/-- The text of the file that a written path leads to, if it has one. -/
def text? (tree : FileTree) (start : List String) (path : String) : Option String :=
  ((tree.resolve? start path).bind tree.bytes?).bind String.fromUTF8?

/-- The files below a directory whose names have an extension, in the order of their paths, name by
name. -/
def filesWithExtension (tree : FileTree) (place : List String) (extension : String) :
    List (List String × ByteArray) :=
  let files := (tree.below place).filterMap fun (path, entry) =>
    match entry with
    | .file bytes =>
      if path.getLast?.bind Path.extension? == some extension then some (path, bytes) else none
    | .directory => none
  stableSort (fun left right => decide ¬ right.1 < left.1) files

end FileTree

end ApiAtlas
