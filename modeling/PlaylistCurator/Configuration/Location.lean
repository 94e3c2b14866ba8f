import PlaylistCurator.Configuration.Document
import PlaylistCurator.Files.Task

/-!
# Where files are found

The places of the configuration file and the library file, by the environment and the file system.
Directories for configuration and data are named by variables of their own, which count only if they
hold absolute paths, and otherwise lie under the home directory.

* `Configuration.load`: the configuration at a path, where no file means the defaults.
* `Configuration.libraryPath`: the library file that is used.
-/

namespace PlaylistCurator

/-- The values of environment variables. -/
abbrev Environment : Type := String → Option String

namespace Environment

/-- The home directory. -/
def home? (environment : Environment) : Option String :=
  (environment "HOME").filter fun path => !path.isEmpty

/-- The directory that the variable of a name gives, or else one under the home directory. -/
def directory? (environment : Environment) (name : String) (underHome : String) :
    Option String :=
  ((environment name).filter Path.isAbsolute).or
    (environment.home?.map fun home => Path.join home underHome)

/-- The directory of the program's data. -/
def dataDirectory? (environment : Environment) : Option String :=
  (environment.directory? "XDG_DATA_HOME" ".local/share").map fun directory =>
    Path.join directory "spotcrates"

/-- The path of the configuration file. -/
def configPath (environment : Environment) : FileTask String :=
  match environment.directory? "XDG_CONFIG_HOME" ".config" with
  | some directory => return Path.join (Path.join directory "spotcrates") "spotcrates_config.toml"
  | none => .failWith .noConfigDirectory []

/-- The directory of the program's data, which is made if it is missing. -/
def dataDirectory (environment : Environment) : FileTask String :=
  match environment.dataDirectory? with
  | some directory =>
    .makeDirectory directory fun isThere => do
      FileTask.require (.createDataDirectory directory) isThere
      return directory
  | none => .failWith .noDataDirectory []

/-- The path of the library file among the program's data. -/
def libraryPath (environment : Environment) : FileTask String := do
  return Path.join (← environment.dataDirectory) "library.json"

end Environment

namespace Configuration

/-- The configuration of a file that is there. -/
def read (path : String) : FileTask Configuration := do
  match parse (← FileTask.readText path (.readConfig path)) with
  | .ok configuration => return configuration
  | .error failure => .fail (failure.inside (.useConfig path))

/-- The configuration at a path; if nothing is there, the defaults hold. -/
def load (path : String) : FileTask Configuration :=
  .probe path fun isThere => if isThere then read path else return {}

/-- The path of the library file: one that is asked for, or else the configured one, or else the one
among the program's data. -/
def libraryPath (configuration : Configuration) (environment : Environment)
    (path : Option String) : FileTask String :=
  match path.or configuration.library with
  | some path => return path
  | none => environment.libraryPath

end Configuration

end PlaylistCurator
