import ApiAtlas.Files.Archive
import ApiAtlas.Ingest.Directory

/-! # Where the headers come from

The headers are in a directory that is named, or in the cache of a download, or else in a default
place. A cache that has anything in its directory of headers is used as it is. Getting the archive
from the network is outside this library: without a usable cache a download fails. So is what the
system knows about its user, who may have no home and no place for caches.
-/

namespace ApiAtlas

/-- Where the headers shall come from. A named directory goes before a download. -/
structure SourceOptions where
  root : Option String
  download : Bool
  cacheDir : Option String
deriving DecidableEq, Repr

/-- The directories of the user, as far as the system knows them, and the one for temporary files. -/
structure UserDirectories where
  home : Option String
  cache : Option String
  temporary : String
deriving DecidableEq, Repr

namespace Source

/-- The directory of headers if nothing else is said. -/
def defaultHeaders : String := "~/Work/GitHub/pusewicz/cute_framework/include"

/-- A path in which a tilde in front stands for the home directory. Without a home it stands for
itself. -/
def expandTilde (home : Option String) (path : String) : String :=
  match home with
  | none => path
  | some home =>
    if path = "~" then home
    else match Text.afterStart? ['~', '/'] path.toList with
      | some rest => Path.join home (String.ofList rest)
      | none => path

/-- Where downloads are kept if nothing else is said. -/
def defaultCacheDir (user : UserDirectories) : String :=
  Path.join (user.cache.getD user.temporary) "cf-docs-mcp"

/-- Whether a path leads to a directory that has anything in it. -/
def isPopulated (around : Surroundings) (path : String) : Bool :=
  (around.tree.resolve? around.start path).any around.tree.isPopulated

/-- Where the headers that options ask for would be. -/
def wantedHeaders (user : UserDirectories) (options : SourceOptions) : String :=
  match options.root with
  | some root => expandTilde user.home root
  | none =>
    if options.download then
      Archive.headersText (options.cacheDir.getD (defaultCacheDir user))
    else expandTilde user.home defaultHeaders

/-- The directory of headers that options ask for. -/
def headersPath (around : Surroundings) (user : UserDirectories) (options : SourceOptions) :
    Except IngestError String :=
  let headers := wantedHeaders user options
  if options.root.isNone && options.download && !isPopulated around headers then
    .error .noDownload
  else .ok headers

/-- The catalog that options ask for. -/
def catalog (around : Surroundings) (user : UserDirectories) (options : SourceOptions) :
    Except IngestError Catalog := do
  let headers ← headersPath around user options
  if around.isDirectory headers then Ingest.build around headers
  else .error (.noSource headers)

/-- What is published after a build: the new catalog, or, if the build failed, what was published
before. -/
def publish (published : Option Catalog) (built : Except IngestError Catalog) : Option Catalog :=
  match built with
  | .ok catalog => some catalog
  | .error _ => published

end Source

end ApiAtlas
