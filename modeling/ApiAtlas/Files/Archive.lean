import ApiAtlas.Files.Tree

/-! # Extracting the documentation from an archive

An archive of the framework has everything below one top directory. Of it only the headers and the
guides are kept; whatever an earlier extraction left of them is removed first. The first component
of an entry's name is dropped, whatever it is, and an entry that would lead upwards is passed over.

Extraction returns the tree as it is afterwards, also where it fails half-way.
-/

namespace ApiAtlas

/-- An entry of an archive. A name that ends with a slash names a directory. -/
structure ArchiveEntry where
  name : String
  content : ByteArray
  isDirectory : Bool

/-- Whether an entry makes a directory. -/
def ArchiveEntry.makesDirectory (entry : ArchiveEntry) : Bool :=
  entry.isDirectory || entry.name.toList.getLast? == some '/'

/-- The entries of an archive, and whether its data end properly after them. -/
structure Archive where
  entries : List ArchiveEntry
  intact : Bool

/-- Why an extraction fails. -/
inductive ExtractError where
  | cannotRemove (path : String)
  | corruptEntry
  | cannotCreate (path : String)
  | cannotExtract (path : String)
  | missingInclude
deriving DecidableEq, Repr

/-- The wording of an error. -/
def ExtractError.message : ExtractError → String
  | cannotRemove path => "Failed to remove " ++ path
  | corruptEntry => "Corrupt archive entry"
  | cannotCreate path => "Failed to create " ++ path
  | cannotExtract path => "Failed to extract " ++ path
  | missingInclude => "Archive does not contain an include/ directory"

namespace Archive

/-- The names of components that do not lead upwards. -/
def plainNames? : List PathComponent → Option (List String)
  | [] => some []
  | .normal name :: rest => (plainNames? rest).map (name :: ·)
  | _ :: _ => none

/-- Whether names lie in the directory of headers. -/
def isHeaderPath (names : List String) : Bool := ["include"].isPrefixOf names

/-- Whether names lie in the directory of guides. -/
def isGuidePath (names : List String) : Bool := ["docs", "topics"].isPrefixOf names

/-- The place of an entry below the destination, if the entry is kept. -/
def keptPath? (name : String) : Option (List String) :=
  (plainNames? ((Path.components name).drop 1)).filter fun names =>
    isHeaderPath names || isGuidePath names

/-- The text of names below the destination. -/
def relativeText (names : List String) : String := "/".intercalate names

/-- The directory above an entry, as messages show it. -/
def shownParent (shown : String) (names : List String) : String :=
  (Path.parent? (Path.join shown (relativeText names))).getD ""

/-- Write an entry to its place. A file replaces a file, and a directory may already be there; in
all other cases the place must be free. -/
def unpack? (tree : FileTree) (place : List String) (entry : ArchiveEntry) : Option FileTree :=
  match tree.entry? place, entry.makesDirectory with
  | some .directory, true => some tree
  | some .directory, false => none
  | some (.file _), true => none
  | some (.file _), false => some (tree.put place (.file entry.content))
  | none, true => some (tree.put place .directory)
  | none, false => some (tree.put place (.file entry.content))

/-- Extract entries one after the other. The result says whether any of them, or an earlier one,
lay among the headers. -/
def extractEntries (dest : List String) (shown : String) (tree : FileTree) (found : Bool) :
    List ArchiveEntry → FileTree × Except ExtractError Bool
  | [] => (tree, .ok found)
  | entry :: entries =>
    match keptPath? entry.name with
    | none => extractEntries dest shown tree found entries
    | some names =>
      match tree.makeDirectories [] (dest ++ names.dropLast) with
      | none => (tree, .error (.cannotCreate (shownParent shown names)))
      | some made =>
        match unpack? made (dest ++ names) entry with
        | none => (made, .error (.cannotExtract (relativeText names)))
        | some written => extractEntries dest shown written (found || isHeaderPath names) entries

/-- Remove what stands at each place. A plain file is in the way of that. -/
def removeStale (tree : FileTree) :
    List (List String × String) → FileTree × Except ExtractError Unit
  | [] => (tree, .ok ())
  | (place, shown) :: rest =>
    match tree.entry? place with
    | none => removeStale tree rest
    | some .directory => removeStale (tree.remove place) rest
    | some (.file _) => (tree, .error (.cannotRemove shown))

/-- The headers below a destination, as messages show them. -/
def headersText (shown : String) : String := Path.join shown "include"

/-- Extract the documentation to a destination, which messages show as `shown`. The result is the
path of the headers. -/
def extract (archive : Archive) (dest : List String) (shown : String) (tree : FileTree) :
    FileTree × Except ExtractError String :=
  let stale := [(dest ++ ["include"], headersText shown),
    (dest ++ ["docs", "topics"], Path.join (Path.join shown "docs") "topics")]
  match removeStale tree stale with
  | (tree, .error error) => (tree, .error error)
  | (tree, .ok ()) =>
    match extractEntries dest shown tree false archive.entries with
    | (tree, .error error) => (tree, .error error)
    | (tree, .ok found) =>
      if !archive.intact then (tree, .error .corruptEntry)
      else if !found then (tree, .error .missingInclude)
      else (tree, .ok (headersText shown))

end Archive

end ApiAtlas
