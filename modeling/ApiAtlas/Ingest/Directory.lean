import ApiAtlas.Files.Tree
import ApiAtlas.Guide.ReadingOrder
import ApiAtlas.Guide.Reader
import ApiAtlas.Guide.Refine
import ApiAtlas.Header.Reader

/-! # Reading headers and guides from files

A catalog is built from a directory of headers and the guides next to it. Headers are read from all
levels of their directory, guides only from the top level of theirs, both in the order of their
paths. A file that is no text is passed over.
-/

namespace ApiAtlas

/-- Why documentation cannot be read. -/
inductive IngestError where
  | unreadable (path : String)
  | noHeaders (path : String)
  | noTopics (path : String)
  | noSource (path : String)
  | noDownload
deriving DecidableEq, Repr

/-- The wording of an error. -/
def IngestError.message : IngestError → String
  | unreadable path => "Failed to read " ++ path
  | noHeaders path => "Headers directory not found: " ++ path
  | noTopics path => "Topics directory not found: " ++ path
  | noSource path =>
    "Headers directory not found: " ++ path ++ ". Use --root to point at the Cute Framework " ++
      "include/ directory, or --download to fetch it from GitHub."
  | noDownload => "Failed to download Cute Framework archive"

/-- The files in reach, and the directory from which paths are followed. -/
structure Surroundings where
  tree : FileTree
  start : List String

namespace Surroundings

/-- Whether a path leads to a directory. -/
def isDirectory (around : Surroundings) (path : String) : Bool :=
  around.tree.isDirectoryAt around.start path

/-- The text of a file. -/
def text? (around : Surroundings) (path : String) : Option String :=
  around.tree.text? around.start path

/-- The texts of the files below a directory that have an extension, each with its path from the
directory. Files that are no text are left out. -/
def texts (around : Surroundings) (directory extension : String) : List (List String × String) :=
  match around.tree.resolve? around.start directory with
  | none => []
  | some place =>
    (around.tree.filesWithExtension place extension).filterMap fun (path, bytes) =>
      (String.fromUTF8? bytes).map fun text => (path, text)

end Surroundings

namespace Ingest

/-- The records of one header. They are filed under the name of the file. -/
def headerFile (around : Surroundings) (path : String) : Except IngestError (List Record) :=
  match around.text? path with
  | some text => .ok (Header.records ((Path.fileName? path).getD "") text.toList)
  | none => .error (.unreadable path)

/-- The records of all headers of a directory. -/
def headerDirectory (around : Surroundings) (directory : String) :
    Except IngestError (List Record) :=
  if around.isDirectory directory then
    .ok ((around.texts directory "h").flatMap fun (path, text) =>
      Header.records (path.getLast?.getD "") text.toList)
  else .error (.noHeaders directory)

/-- The page that gives the reading order. -/
def orderFile : String := "index.md"

/-- The guides of a directory in reading order. Without the page for it there is none. -/
def readingOrder (around : Surroundings) (directory : String) : List String :=
  match around.text? (Path.join directory orderFile) with
  | some text => Guide.orderedGuides text.toList
  | none => []

/-- The record of a guide with its place in the reading order. -/
def guideRecord (order : List String) (name text : String) : Record :=
  let record := Guide.record name text
  let place := (Guide.position? name order).map UInt32.ofNat
  match record.details with
  | .topic topic => { record with details := .topic { topic with readingOrder := place } }
  | _ => record

/-- The guides of a directory. Guides further down do not count, and neither does the page that
gives the reading order. -/
def guideDirectory (around : Surroundings) (directory : String) :
    Except IngestError (List Record) :=
  if around.isDirectory directory then
    let order := readingOrder around directory
    .ok ((around.texts directory "md").filterMap fun (path, text) =>
      match path with
      | [file] => if file = orderFile then none else some (guideRecord order (Path.stem file) text)
      | _ => none)
  else .error (.noTopics directory)

/-- Where guides for a directory of headers can be: next to it, among the documents or by
themselves. -/
def guideCandidates (headers : String) : List String :=
  match Path.parent? headers with
  | none => []
  | some base => [Path.join (Path.join base "docs") "topics", Path.join base "topics"]

/-- Where the guides for a directory of headers are. -/
def guidesPath? (around : Surroundings) (headers : String) : Option String :=
  (guideCandidates headers).find? around.isDirectory

/-- Add guides to a catalog, each refined by what the catalog holds at that moment. -/
def addGuides (catalog : Catalog) (guides : List Record) : Catalog :=
  guides.foldl (fun catalog guide => catalog.add (Guide.refine catalog guide)) catalog

/-- The catalog of a directory of headers and the guides next to it. -/
def build (around : Surroundings) (headers : String) : Except IngestError Catalog := do
  let catalog := Catalog.ofRecords (← headerDirectory around headers)
  match guidesPath? around headers with
  | none => return catalog
  | some directory => return addGuides catalog (← guideDirectory around directory)

end Ingest

end ApiAtlas
