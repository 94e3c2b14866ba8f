import PlaylistCurator.CommandLine.Command

/-!
# The grammar of command lines

The names under which commands can be called, and the parameters and positions that each of them
has. A parameter has a long and a short name and takes a value, unless it is a switch. What can be
given before the name of a command is the program's own level; each command is another level.
-/

namespace PlaylistCurator.CommandLine

/-- What is given by name. -/
inductive Parameter
  | configFile
  | library
  | filter
  | sort
  | randomize
  | help
  | version
  deriving DecidableEq, Repr

namespace Parameter

/-- The long name of a parameter. -/
def long : Parameter → String
  | .configFile => "config-file"
  | .library => "library"
  | .filter => "filter"
  | .sort => "sort"
  | .randomize => "randomize"
  | .help => "help"
  | .version => "version"

/-- The short name of a parameter. -/
def short : Parameter → Char
  | .configFile => 'c'
  | .library => 'l'
  | .filter => 'f'
  | .sort => 's'
  | .randomize => 'r'
  | .help => 'h'
  | .version => 'V'

/-- Whether a parameter takes a value. -/
def takesValue : Parameter → Bool
  | .configFile | .library | .filter | .sort => true
  | .randomize | .help | .version => false

/-- Whether a parameter can have a value. Paths are not empty. -/
def accepts : Parameter → String → Bool
  | .configFile, value | .library, value => !value.isEmpty
  | _, _ => true

/-- The environment variable that gives a parameter its value where the command line does not. -/
def environmentName? : Parameter → Option String
  | .configFile => some "SPOTCRATES_CONFIG"
  | .library => some "SPOTCRATES_LIBRARY"
  | _ => none

end Parameter

/-- What is given by its place. -/
inductive Position
  | source
  | destination
  | name
  | shell
  deriving DecidableEq, Repr

/-- Whether a value can stand at a position. -/
def Position.accepts : Position → String → Bool
  | .shell, value => (Shell.ofName? value).isSome
  | _, _ => true

/-- The names of commands. -/
inductive Verb
  | daily
  | subscriptions
  | listPlaylists
  | copy
  | randomize
  | commands
  | completion
  deriving DecidableEq, Repr

/-- What can be given at a level of the command line. -/
structure Level where
  /-- The parameters. -/
  parameters : List Parameter
  /-- The positions in order. -/
  positions : List Position
  /-- Whether the name of a command can be given. -/
  hasVerbs : Bool

namespace Level

/-- The level before a command. -/
def program : Level := ⟨[.configFile, .library, .help, .version], [], true⟩

/-- The parameter of a long name. -/
def long? (level : Level) (name : String) : Option Parameter :=
  level.parameters.find? (·.long == name)

/-- The parameter of a short name. -/
def short? (level : Level) (name : Char) : Option Parameter :=
  level.parameters.find? (·.short == name)

end Level

namespace Verb

/-- All commands. -/
def all : List Verb :=
  [.daily, .subscriptions, .listPlaylists, .copy, .randomize, .commands, .completion]

/-- The name of a command. -/
def name : Verb → String
  | .daily => "daily"
  | .subscriptions => "subscriptions"
  | .listPlaylists => "list-playlists"
  | .copy => "copy"
  | .randomize => "randomize"
  | .commands => "commands"
  | .completion => "completion"

/-- The names under which a command can be called. -/
def names : Verb → List String
  | .listPlaylists => [name .listPlaylists, "list"]
  | verb => [verb.name]

/-- The command that is called by a name. -/
def ofName? (name : String) : Option Verb :=
  all.find? (·.names.contains name)

/-- The line about a command in a summary. -/
def description : Verb → String
  | .daily => "Append new daily mix tracks to the daily target playlist"
  | .subscriptions => "Append new subscribed-playlist tracks to the subscriptions target"
  | .listPlaylists => "List playlists; -f filters, -s sorts (alias: list)"
  | .copy => "Copy a playlist's tracks onto another; -r shuffles first"
  | .randomize => "Shuffle a playlist's tracks in place"
  | .commands => "Print this summary"
  | .completion => "Generate a shell completion script"

/-- What can be given after the name of a command. -/
def level : Verb → Level
  | .listPlaylists => ⟨[.filter, .sort, .configFile, .library, .help], [], false⟩
  | .copy => ⟨[.randomize, .configFile, .library, .help], [.source, .destination], false⟩
  | .randomize => ⟨[.configFile, .library, .help], [.name], false⟩
  | .completion => ⟨[.configFile, .library, .help], [.shell], false⟩
  | .daily | .subscriptions | .commands => ⟨[.configFile, .library, .help], [], false⟩

/-- The name that asks for help about a command. -/
def helpName : String := "help"

/-- Every command is called by its own name. -/
theorem ofName?_name (verb : Verb) : ofName? verb.name = some verb := by
  cases verb <;> decide +kernel

end Verb

end PlaylistCurator.CommandLine
