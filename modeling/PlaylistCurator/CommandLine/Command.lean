import PlaylistCurator.Curation.Job

/-!
# Commands

What the program can be told to do, and the reasons why a command line tells it nothing.
-/

namespace PlaylistCurator.CommandLine

/-- A shell for which a completion script can be written. -/
inductive Shell
  | bash
  | zsh
  | fish
  | powerShell
  | elvish
  deriving DecidableEq, Repr

namespace Shell

/-- All shells. -/
def all : List Shell := [.bash, .zsh, .fish, .powerShell, .elvish]

/-- The name of a shell on a command line. -/
def name : Shell → String
  | .bash => "bash"
  | .zsh => "zsh"
  | .fish => "fish"
  | .powerShell => "power-shell"
  | .elvish => "elvish"

/-- The shell of a name. -/
def ofName? (name : String) : Option Shell :=
  all.find? (·.name == name)

/-- Every shell is found under its name. -/
theorem ofName?_name (shell : Shell) : ofName? shell.name = some shell := by
  cases shell <;> decide +kernel

end Shell

/-- What the program is told to do. -/
inductive Command
  /-- Do something with the user's playlists. -/
  | curate (job : Curation.Job)
  /-- Print a summary of the commands. -/
  | commands
  /-- Print a completion script. -/
  | completion (shell : Shell)
  deriving DecidableEq, Repr

/-- A command with the files that it is to use. -/
structure Invocation where
  /-- The path of the configuration file, if one is asked for. -/
  configFile : Option String
  /-- The path of the library file, if one is asked for. -/
  library : Option String
  /-- The command. -/
  command : Command
  deriving DecidableEq, Repr

/-- Why a command line gives no command. -/
inductive Refusal
  /-- Help is asked for. -/
  | help
  /-- The version is asked for. -/
  | version
  /-- Nothing is given at all. -/
  | nothingGiven
  /-- Something is given, but no command. -/
  | noCommand
  /-- There is no command of a name. -/
  | unknownCommand
  /-- An argument is not expected. -/
  | unexpectedArgument
  /-- A parameter is given more than once. -/
  | repeatedParameter
  /-- A value is missing or not allowed. -/
  | invalidValue
  /-- A switch is given a value. -/
  | needlessValue
  /-- An argument that is required is missing. -/
  | missingArgument
  deriving DecidableEq, Repr

/-- Whether a refusal is no fault, because it is what was asked for. -/
def Refusal.isRequested : Refusal → Bool
  | .help | .version => true
  | _ => false

end PlaylistCurator.CommandLine
