import ApiAtlas.Catalog.Report
import ApiAtlas.CommandLine.Reader
import ApiAtlas.Ingest.Source
import ApiAtlas.Json.Writer
import ApiAtlas.Server.Session
import ApiAtlas.Tool.Answer

/-! # The program

What the program prints and how it ends, given its arguments, its environment and the files in
reach. Serving is the exception: it goes on as long as its client talks to it, so only its end
without any client is described here.
-/

namespace ApiAtlas

/-- Where the program runs. -/
structure Setting where
  around : Surroundings
  user : UserDirectories
  environment : CommandLine.Environment

/-- What a run of the program leaves behind. -/
structure Outcome where
  exitCode : Nat
  output : String
deriving DecidableEq, Repr

namespace Program

open CommandLine

/-- Where an invocation wants the headers from. -/
def sourceOptions (invocation : Invocation) : SourceOptions :=
  ⟨invocation.rootGiven?, invocation.download, invocation.cacheDir⟩

/-- The catalog that an invocation asks for. -/
def catalog (setting : Setting) (invocation : Invocation) : Except IngestError Catalog :=
  Source.catalog setting.around setting.user (sourceOptions invocation)

/-- A printed text, or a failure. -/
def printed (text : Except IngestError String) : Outcome :=
  match text with
  | .ok text => ⟨0, text ++ "\n"⟩
  | .error _ => ⟨1, ""⟩

/-- How a refused command line ends. Help is a success. -/
def refused : UsageError → Outcome
  | .help => ⟨0, ""⟩
  | _ => ⟨2, ""⟩

/-- Carry out an invocation. A server without a client ends as a session that nobody opened. -/
def perform (setting : Setting) (invocation : Invocation) : Outcome :=
  match invocation.command with
  | .stdio => ⟨Server.Session.unopened.exitCode, ""⟩
  | .search query kind category limit =>
    printed ((catalog setting invocation).map fun catalog =>
      Render.searchAnswer catalog query kind category (some limit))
  | .stats => printed ((catalog setting invocation).map fun catalog => catalog.stats.toJson.pretty)

/-- Run the program. -/
def run (setting : Setting) (arguments : List String) : Outcome :=
  match CommandLine.read setting.environment arguments with
  | .ok invocation => perform setting invocation
  | .error error => refused error

end Program

end ApiAtlas
