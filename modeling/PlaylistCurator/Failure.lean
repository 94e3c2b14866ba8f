import PlaylistCurator.Query.Error

/-!
# Failures

Why a command fails: a cause, and what was being done when it arose, from the command down to the
step that met the cause. The report of a failure is one line for each of these.

* `Failure.chain`: the lines of a report, outermost first.
-/

namespace PlaylistCurator

/-- What was being done when a failure arose. -/
inductive Activity
  /-- Fetching the user's playlists. -/
  | fetchPlaylists
  /-- Fetching the tracks of the playlist with an id. -/
  | fetchTracks (id : String)
  /-- Creating a playlist of a name. -/
  | createPlaylist (name : String)
  /-- Adding tracks to the playlist with an id. -/
  | addTracks (id : String)
  /-- Replacing the tracks of a named playlist by others in a new order. -/
  | replaceTracks (name : String)
  /-- Adding the rest of the tracks to a named playlist in a new order. -/
  | addReordered (name : String)
  /-- Reading a configuration file. -/
  | readConfig (path : String)
  /-- Using what a configuration file holds. -/
  | useConfig (path : String)
  /-- Reading the text of a configuration. -/
  | parseConfig
  /-- Preparing the directory for the program's data. -/
  | createDataDirectory (path : String)
  /-- Reading a library file. -/
  | readLibrary (path : String)
  /-- Reading the text of a library file. -/
  | parseLibrary (path : String)
  /-- Writing a library file. -/
  | writeLibrary (path : String)
  deriving DecidableEq, Repr

/-- What a reader is told about an activity in which a failure arose. -/
def Activity.message : Activity → String
  | .fetchPlaylists => "Failed to fetch playlists"
  | .fetchTracks id => s!"Failed to fetch tracks of playlist {id}"
  | .createPlaylist name => s!"Failed to create playlist '{name}'"
  | .addTracks id => s!"Failed to add tracks to playlist {id}"
  | .replaceTracks name => s!"Failed to replace tracks of '{name}'"
  | .addReordered name => s!"Failed to add tracks to '{name}'"
  | .readConfig path => s!"Failed to read config file {path}"
  | .useConfig path => s!"In config file {path}"
  | .parseConfig => "Invalid TOML configuration"
  | .createDataDirectory path =>
    s!"Failed to create Spotcrates data directory at {path}. Please check file permissions."
  | .readLibrary path =>
    s!"Failed to read playlist library at {path}. Create it or pass --library."
  | .parseLibrary path => s!"Invalid playlist library JSON in {path}"
  | .writeLibrary path => s!"Failed to write playlist library to {path}"

/-- What lies at the bottom of a failure. -/
inductive Cause
  /-- A filter or sort expression is refused. -/
  | query (error : QueryError)
  /-- No listed playlist has the name. -/
  | playlistNotFound (name : String)
  /-- No playlist of the library has the id. -/
  | unknownPlaylist (id : String)
  /-- A single call carries more tracks than the limit. -/
  | tooManyTracks (count limit : Nat)
  /-- A call to the music service does not get through, with the reason. -/
  | callFailed (reason : String)
  /-- There is no directory for configuration files. -/
  | noConfigDirectory
  /-- There is no directory for data files. -/
  | noDataDirectory
  /-- A text is no library document. -/
  | invalidLibrary
  /-- A text is no configuration document. -/
  | invalidConfig
  /-- The file system refuses an operation. -/
  | fileSystem
  deriving DecidableEq, Repr

/-- What a reader is told about a cause. -/
def Cause.message : Cause → String
  | .query error => error.message
  | .playlistNotFound name => s!"playlist '{name}' not found"
  | .unknownPlaylist id => s!"No playlist with id '{id}'"
  | .tooManyTracks count limit =>
    s!"music service error: too many tracks in one request: {count} (limit {limit})"
  | .callFailed reason => reason
  | .noConfigDirectory =>
    "Could not determine system config directory. Pass --config-file explicitly."
  | .noDataDirectory =>
    "Could not determine system data directory. Please ensure your platform supports standard " ++
      "data directories."
  | .invalidLibrary => "the text is not a library document"
  | .invalidConfig => "the text is not a configuration document"
  | .fileSystem => "the file system refused the operation"

/-- A failure of a command. -/
structure Failure where
  /-- What lies at the bottom of it. -/
  cause : Cause
  /-- What was being done, outermost first. -/
  during : List Activity := []
  deriving DecidableEq, Repr

namespace Failure

/-- The failure seen from an activity around it. -/
def inside (activity : Activity) (failure : Failure) : Failure :=
  { failure with during := activity :: failure.during }

/-- The lines of the report, outermost first. -/
def chain (failure : Failure) : List String :=
  failure.during.map Activity.message ++ [failure.cause.message]

/-- The outermost line of the report. -/
def message (failure : Failure) : String :=
  match failure.during with
  | [] => failure.cause.message
  | activity :: _ => activity.message

end Failure

end PlaylistCurator
