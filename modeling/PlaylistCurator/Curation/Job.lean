import PlaylistCurator.Curation.Copy
import PlaylistCurator.Curation.List
import PlaylistCurator.Curation.Merge
import PlaylistCurator.Listing

/-!
# Jobs

All that can be done with a user's playlists, under one type: every job is a dialogue with the music
service, and what it yields is told to the user as lines of text.

* `Job.dialogue`: how a job is done.
* `Job.report`: what the user is told about it.
-/

namespace PlaylistCurator.Curation

/-- Something to do with a user's playlists. -/
inductive Job
  /-- Merge the daily mixes. -/
  | daily
  /-- Merge the subscribed playlists. -/
  | subscriptions
  /-- List the playlists, with a filter and a sort expression. -/
  | list (filter sort : Option String)
  /-- Copy a playlist's tracks to another one, possibly in another order. -/
  | copy (source destination : String) (isShuffled : Bool)
  /-- Put a playlist's tracks into another order. -/
  | randomize (name : String)
  deriving DecidableEq, Repr

namespace Job

/-- What a job yields. -/
def Product : Job → Type
  | .daily | .subscriptions => MergeReport
  | .list .. => List Record
  | .copy .. | .randomize _ => Nat

/-- The dialogue by which a job is done. -/
def dialogue (settings : Settings) (shuffle : Shuffle) : (job : Job) → Dialogue job.Product
  | .daily => merge (.dailyMixes settings)
  | .subscriptions => merge (.subscriptions settings)
  | .list filter sort => Curation.list filter sort
  | .copy source destination isShuffled =>
    Curation.copy source destination (if isShuffled then some shuffle else none)
  | .randomize name => Curation.randomize name shuffle

/-- The lines about a merge. -/
def mergeLines (label : String) (report : MergeReport) : List String :=
  report.warnings.map (fun warning => s!"{label}: {warning.message}") ++
    [s!"{label}: added {report.added.length} of {report.candidateCount} tracks from " ++
      s!"{report.sourceCount} playlist(s)"]

/-- Lines, each with an end. -/
def ofLines (lines : List String) : String :=
  String.join (lines.map (· ++ "\n"))

/-- What the user is told about a job that is done. -/
def report : (job : Job) → job.Product → String
  | .daily, product => ofLines (mergeLines "daily" product)
  | .subscriptions, product => ofLines (mergeLines "subscriptions" product)
  | .list .., records => Listing.format records
  | .copy source destination _, count =>
    let count : Nat := count
    ofLines [s!"Copied {count} tracks from '{source}' to '{destination}'"]
  | .randomize name, count =>
    let count : Nat := count
    ofLines [s!"Shuffled {count} tracks in '{name}'"]

end Job

end PlaylistCurator.Curation
