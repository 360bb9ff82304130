import ApiAtlas.Program.Basic

/-! # The executable

The outer shell of the program: it reads the arguments, the environment and the files that an
invocation can ask for, lets `Program` decide, and writes the outcome. Serving is a loop over lines;
the catalog is built beside it, and requests that come before it is ready find nothing published.
-/

namespace ApiAtlas.Shell

open CommandLine

/-- The variables of the environment that stand in for options. -/
def environment : IO Environment := do
  let names := OptionName.global.filterMap OptionName.environmentName?
  names.filterMapM fun name => return (← IO.getEnv name).map fun value => (name, value)

/-- The path of a place on the disk. -/
def diskPath (place : List String) : String := "/" ++ "/".intercalate place

/-- Whether a place is a directory of the disk. -/
def isDiskDirectory (place : List String) : IO Bool := do
  try (← IO.FS.realPath (diskPath place)).isDir catch _ => return false

/-- Enter a directory of the disk with everything below it into a tree. Links are not followed. -/
partial def loadBelow (tree : FileTree) (place : List String) : IO FileTree := do
  let mut tree := tree
  for entry in ← (← IO.FS.realPath (diskPath place)).readDir do
    let spot := place ++ [entry.fileName]
    match (← entry.path.symlinkMetadata).type with
    | .dir => tree ← loadBelow (tree.put spot .directory) spot
    | .file => tree := tree.put spot (.file (← IO.FS.readBinFile entry.path))
    | _ => pure ()
  return tree

/-- Enter the directories on the way along a path, as far as there are any. The result holds the
directory that the path ends in. -/
def loadWay (tree : FileTree) (start : List String) (path : String) :
    IO (FileTree × Option (List String)) := do
  let mut tree := tree
  let mut place := if Path.isAbsolute path then [] else start
  for piece in Path.pieces path do
    place := Path.place place piece
    unless tree.isDirectory place do
      if ← isDiskDirectory place then tree := tree.put place .directory
      else return (tree, none)
  return (tree, some place)

/-- Enter the directory that a path leads to. -/
def loadDirectory (tree : FileTree) (start : List String) (path : String) : IO FileTree := do
  let (tree, place?) ← loadWay tree start path
  match place? with
  | some place => loadBelow tree place
  | none => return tree

/-- The directories that an invocation may read. -/
def directories (user : UserDirectories) (options : SourceOptions) : List String :=
  let headers := Source.wantedHeaders user options
  headers :: Ingest.guideCandidates headers

/-- The directories of the user. Caches have a place of their own if the environment names one, and
else stand in the home directory. -/
def userDirectories : IO UserDirectories := do
  let home := (← IO.getEnv "HOME").filter (· ≠ "")
  let named := (← IO.getEnv "XDG_CACHE_HOME").filter Path.isAbsolute
  let cache := named <|> home.map (Path.join · ".cache")
  return ⟨home, cache, (← IO.getEnv "TMPDIR").getD "/tmp"⟩

/-- The setting in which an invocation is carried out. -/
def setting (environment : Environment) (invocation : Invocation) : IO Setting := do
  let start := Path.place [] (← IO.currentDir).toString
  let user ← userDirectories
  let (tree, _) ← loadWay .empty [] (← IO.currentDir).toString
  let tree ← (directories user (Program.sourceOptions invocation)).foldlM
    (fun tree path => loadDirectory tree start path) tree
  return ⟨⟨tree, start⟩, user, environment⟩

/-- The catalog that an invocation asks for. A failure is reported. -/
def catalog (environment : Environment) (invocation : Invocation) : IO (Option Catalog) := do
  let built := Program.catalog (← setting environment invocation) invocation
  if let .error error := built then IO.eprintln error.message
  return Source.publish none built

/-- What has been published so far. -/
def published (build : Option (Task (Except IO.Error (Option Catalog)))) :
    IO (Option Catalog) := do
  match build with
  | none => return none
  | some task => if ← IO.hasFinished task then return (task.get.toOption).join else return none

/-- Talk to a client until it leaves. The catalog is built once the session is open. -/
partial def serve (start : IO (Task (Except IO.Error (Option Catalog))))
    (build : Option (Task (Except IO.Error (Option Catalog)))) (session : Server.Session) :
    IO Server.Session := do
  let line ← (← IO.getStdin).getLine
  if line.isEmpty || session = .refused then return session
  let (session, answer) := session.receive (← published build) line
  if let some answer := answer then
    let output ← IO.getStdout
    output.putStrLn answer
    output.flush
  let build ← if session = .opened && build.isNone then some <$> start else pure build
  serve start build session

/-- Carry out an invocation. -/
def perform (environment : Environment) (invocation : Invocation) : IO UInt32 := do
  if invocation.command = .stdio then
    let session ← serve (IO.asTask (catalog environment invocation) .dedicated) none .unopened
    return session.exitCode.toUInt32
  let setting ← setting environment invocation
  if let .error error := Program.catalog setting invocation then IO.eprintln error.message
  let outcome := Program.perform setting invocation
  IO.print outcome.output
  return outcome.exitCode.toUInt32

end ApiAtlas.Shell

/-- Run the program. -/
def main (arguments : List String) : IO UInt32 := do
  let environment ← ApiAtlas.Shell.environment
  match ApiAtlas.CommandLine.read environment arguments with
  | .ok invocation => ApiAtlas.Shell.perform environment invocation
  | .error error =>
    if error = .help then IO.println ApiAtlas.CommandLine.usage
    else IO.eprintln ApiAtlas.CommandLine.usage
    return (ApiAtlas.Program.refused error).exitCode.toUInt32
