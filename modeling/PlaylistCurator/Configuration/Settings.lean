/-!
# Settings

The names and name prefixes by which playlists take part in the merge commands. A configuration
overrides some of the settings and leaves the others at their defaults.

* `Settings.overriddenBy`: the settings after overrides.
-/

namespace PlaylistCurator

/-- The names by which playlists take part in the merge commands. -/
structure Settings where
  /-- The names of daily mixes start with it. -/
  dailyMixPrefix : String := "Daily Mix"
  /-- The name of the playlist to which daily mixes are added. -/
  dailyMixTarget : String := "Now"
  /-- The names of playlists whose tracks are never added again start with it. -/
  exclusionPrefix : String := "Overplayed"
  /-- The names of subscribed playlists start with it. -/
  subscriptionsPrefix : String := "Subscribed"
  /-- The name of the playlist to which subscribed playlists are added. -/
  subscriptionsTarget : String := "New Subscriptions"
  deriving DecidableEq, Repr

/-- Settings of which some may be missing. -/
structure Overrides where
  /-- Overrides `Settings.dailyMixPrefix`. -/
  dailyMixPrefix : Option String := none
  /-- Overrides `Settings.dailyMixTarget`. -/
  dailyMixTarget : Option String := none
  /-- Overrides `Settings.exclusionPrefix`. -/
  exclusionPrefix : Option String := none
  /-- Overrides `Settings.subscriptionsPrefix`. -/
  subscriptionsPrefix : Option String := none
  /-- Overrides `Settings.subscriptionsTarget`. -/
  subscriptionsTarget : Option String := none
  deriving DecidableEq, Repr

/-- The settings, with those that are overridden replaced. -/
def Settings.overriddenBy (settings : Settings) (overrides : Overrides) : Settings where
  dailyMixPrefix := overrides.dailyMixPrefix.getD settings.dailyMixPrefix
  dailyMixTarget := overrides.dailyMixTarget.getD settings.dailyMixTarget
  exclusionPrefix := overrides.exclusionPrefix.getD settings.exclusionPrefix
  subscriptionsPrefix := overrides.subscriptionsPrefix.getD settings.subscriptionsPrefix
  subscriptionsTarget := overrides.subscriptionsTarget.getD settings.subscriptionsTarget

end PlaylistCurator
