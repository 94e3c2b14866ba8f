import PlaylistCurator.Configuration.Settings
import PlaylistCurator.Curation.Reading

/-!
# Merging playlists into a target

A merge adds to a target playlist the tracks of its source playlists that are neither in the target
nor in an exclusion playlist, each once, in the order in which they are first met. Names decide the
roles: the target has a given name, and of the other playlists those are sources whose names start
with one prefix and those exclusions that are no sources and whose names start with another. A
missing target is created. Finding nothing to add is no failure but a warning.

* `freshTracks`: which tracks are added.
* `merge`: the dialogue.
-/

namespace PlaylistCurator.Curation

/-- The tracks that are not among `seen`, each once, in the order in which they are first met. -/
def freshTracks (seen : List String) : List String → List String
  | [] => []
  | track :: rest =>
    if track ∈ seen then freshTracks seen rest else track :: freshTracks (track :: seen) rest

/-- The tracks of the sources that are neither in the target nor in an exclusion. -/
def appendBatch (sources : List (List String)) (target : List String)
    (exclusions : List (List String)) : List String :=
  freshTracks (target ++ exclusions.flatten) sources.flatten

/-- What a merge goes by. -/
structure MergePlan where
  /-- The names of the sources start with it. -/
  sourcePrefix : String
  /-- The name of the target. -/
  targetName : String
  /-- The names of the exclusions start with it. -/
  exclusionPrefix : String
  deriving DecidableEq, Repr

/-- The merge of the daily mixes. -/
def MergePlan.dailyMixes (settings : Settings) : MergePlan :=
  ⟨settings.dailyMixPrefix, settings.dailyMixTarget, settings.exclusionPrefix⟩

/-- The merge of the subscribed playlists. -/
def MergePlan.subscriptions (settings : Settings) : MergePlan :=
  ⟨settings.subscriptionsPrefix, settings.subscriptionsTarget, settings.exclusionPrefix⟩

/-- What part a playlist has in a merge. -/
inductive Role
  | target
  | source
  | exclusion
  | bystander
  deriving DecidableEq, Repr

/-- Whether a name starts with a text. -/
def startsWith (name start : String) : Bool :=
  start.toList.isPrefixOf name.toList

/-- The role of a playlist. A playlist without a name has none. -/
def MergePlan.role (plan : MergePlan) (playlist : Playlist) : Role :=
  match playlist.name with
  | none => .bystander
  | some name =>
    if name = plan.targetName then .target
    else if startsWith name plan.sourcePrefix then .source
    else if startsWith name plan.exclusionPrefix then .exclusion
    else .bystander

/-- The playlists that have a role, in their order. -/
def MergePlan.withRole (plan : MergePlan) (role : Role) (playlists : List Playlist) :
    List Playlist :=
  playlists.filter (plan.role · = role)

/-- Why a merge has added nothing. -/
inductive MergeWarning
  /-- No name starts with the prefix of the sources. -/
  | noSources (sourcePrefix : String)
  /-- All tracks of the sources are in the target or in an exclusion. -/
  | nothingToAdd
  deriving DecidableEq, Repr

/-- What a reader is told about a warning. -/
def MergeWarning.message : MergeWarning → String
  | .noSources sourcePrefix => s!"no playlists found with the prefix '{sourcePrefix}'"
  | .nothingToAdd => "no new tracks to add"

/-- What a merge has done. -/
structure MergeReport where
  /-- The id of the target. -/
  targetId : String
  /-- The number of sources. -/
  sourceCount : Nat
  /-- The number of tracks of the sources, repeats included. -/
  candidateCount : Nat := 0
  /-- The tracks that were added, in order. -/
  added : List String := []
  /-- Why nothing was added. -/
  warnings : List MergeWarning := []
  deriving DecidableEq, Repr

/-- Merges the sources into the target. -/
def merge (plan : MergePlan) : Dialogue MergeReport := do
  let playlists ← allPlaylists
  let sources := plan.withRole .source playlists
  let targetId ← findOrCreate playlists plan.targetName
  let report : MergeReport := { targetId, sourceCount := sources.length }
  if sources.isEmpty then
    return { report with warnings := [.noSources plan.sourcePrefix] }
  let target ← tracksOf targetId
  let exclusions ← (plan.withRole .exclusion playlists).mapM (tracksOf ·.id)
  let candidates ← sources.mapM (tracksOf ·.id)
  let report := { report with candidateCount := candidates.flatten.length }
  let batch := appendBatch candidates target exclusions
  if batch.isEmpty then
    return { report with warnings := [.nothingToAdd] }
  addTracks targetId batch
  return { report with added := batch }

end PlaylistCurator.Curation
