import ApiAtlas.Record
import ApiAtlas.Text.Blank

/-! # Options of the command line

The program has one command at a time. Some options belong to the program as a whole and may stand
before or after the command; others belong to one command. Options of the program also have a
default in the environment.
-/

namespace ApiAtlas.CommandLine

/-- Why a command line is refused. Asking for help is one of the reasons. -/
inductive UsageError where
  | help
  | unknownArgument
  | invalidCommand
  | missingArgument
  | invalidValue
  | malformedValue
  | repeatedOption
  | unexpectedValue
deriving DecidableEq, Repr

/-- The commands. -/
inductive CommandName where
  | stdio
  | search
  | stats
deriving DecidableEq, Repr

namespace CommandName

/-- All commands. -/
def all : List CommandName := [stdio, search, stats]

/-- The name of a command. -/
def label : CommandName → String
  | stdio => "stdio"
  | search => "search"
  | stats => "stats"

/-- The command with a name. -/
def ofLabel? (text : String) : Option CommandName :=
  all.find? fun command => command.label == text

end CommandName

/-- What can be given on a command line. -/
inductive OptionName where
  | root
  | download
  | cacheDir
  | logJson
  | kind
  | category
  | limit
  | query
  | help
deriving DecidableEq, Repr

/-- Where on the command line an argument stands: before the command, or after it. -/
inductive Scope where
  | program
  | command (name : CommandName)
deriving DecidableEq, Repr

namespace OptionName

/-- The options that belong to the program. -/
def global : List OptionName := [root, download, cacheDir, logJson]

/-- Whether an option takes a value. -/
def takesValue : OptionName → Bool
  | download => false
  | logJson => false
  | help => false
  | _ => true

/-- The long name of an option. -/
def long : OptionName → String
  | root => "root"
  | download => "download"
  | cacheDir => "cache-dir"
  | logJson => "log-json"
  | kind => "type"
  | category => "category"
  | limit => "limit"
  | query => ""
  | help => "help"

/-- The short name of an option. -/
def short? : OptionName → Option Char
  | kind => some 't'
  | category => some 'c'
  | limit => some 'n'
  | help => some 'h'
  | _ => none

/-- The variable of the environment that stands in for an option. -/
def environmentName? : OptionName → Option String
  | root => some "CF_HEADERS_PATH"
  | download => some "CF_DOWNLOAD"
  | cacheDir => some "CF_CACHE_DIR"
  | logJson => some "CF_LOG_JSON"
  | _ => none

end OptionName

namespace Scope

/-- The options that may stand in a scope. -/
def options : Scope → List OptionName
  | program => .help :: OptionName.global
  | command .search => [.help, .kind, .category, .limit] ++ OptionName.global
  | command _ => .help :: OptionName.global

/-- The option with a long name. -/
def long? (scope : Scope) (name : String) : Option OptionName :=
  scope.options.find? fun option => option.long == name

/-- The option with a short name. -/
def short? (scope : Scope) (name : Char) : Option OptionName :=
  scope.options.find? fun option => option.short? == some name

end Scope

/-- The value of a run of decimal digits. A sign of plus may stand in front. -/
def number? (text : String) : Option Nat :=
  let digits := match text.toList with
    | '+' :: rest => rest
    | s => s
  if digits.isEmpty || !digits.all Char.isDigit then none
  else
    let value := digits.foldl (fun n c => 10 * n + (c.toNat - 48)) 0
    if value < UInt64.size then some value else none

/-- A truth value, written in full. -/
def flag? (text : String) : Option Bool :=
  if text = "true" then some true else if text = "false" then some false else none

/-- What is wrong with the value of an option. -/
def OptionName.valueError? (option : OptionName) (value : String) : Option UsageError :=
  match option with
  | cacheDir => if value = "" then some .invalidValue else none
  | kind => if (RecordKind.ofLabel? value).isNone then some .invalidValue else none
  | limit => if (number? value).isNone then some .malformedValue else none
  | download => if (flag? value).isNone then some .invalidValue else none
  | logJson => if (flag? value).isNone then some .invalidValue else none
  | _ => none

/-- How to call the program. -/
def usage : String :=
  "Usage: cf-docs-mcp [--root PATH] [--download] [--cache-dir PATH] [--log-json] [COMMAND]\n\n" ++
    "  stdio   serve clients over standard input and output\n" ++
    "  search  print the result of one search: QUERY [-t TYPE] [-c CATEGORY] [-n LIMIT]\n" ++
    "  stats   print the size of the catalog"

end ApiAtlas.CommandLine
