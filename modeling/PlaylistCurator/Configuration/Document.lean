import PlaylistCurator.Configuration.Settings
import PlaylistCurator.Failure
import PlaylistCurator.Json.Fields
import PlaylistCurator.Toml.Reader

/-!
# Configuration documents

A configuration is a TOML document. Its key `library` names the library file, and its table
`playlists` overrides settings; all other keys are passed over. Overrides can also be given as JSON.

The overrides can be given as a table or as an array of their values in order. A date stands for a
table without any of the keys.

* `Configuration.parse`: the configuration of a text.
-/

namespace PlaylistCurator

namespace Overrides

/-- The keys of the overrides, in order. -/
def keys : List String := [
  "daily_mix_prefix",
  "daily_mix_target",
  "daily_mix_exclude_prefix",
  "subscriptions_prefix",
  "subscriptions_target"]

/-- Reads an override from JSON. -/
def fieldOfJson? (fields : Json.Fields) (key : String) : Option (Option String) :=
  fields.optional key Json.text?

/-- Reads overrides from JSON. -/
def ofJson? (value : Json) : Option Overrides := do
  let fields ← Json.Fields.ofJson? keys value
  return {
    dailyMixPrefix := ← fieldOfJson? fields "daily_mix_prefix"
    dailyMixTarget := ← fieldOfJson? fields "daily_mix_target"
    exclusionPrefix := ← fieldOfJson? fields "daily_mix_exclude_prefix"
    subscriptionsPrefix := ← fieldOfJson? fields "subscriptions_prefix"
    subscriptionsTarget := ← fieldOfJson? fields "subscriptions_target" }

/-- Reads a text that may be missing from the value of a key. -/
def textOfToml? : Option Toml → Option (Option String)
  | none => some none
  | some (.string text) => some (some text)
  | some _ => none

/-- Reads overrides from the entries of a table. -/
def ofEntries? (entries : Toml.Entries) : Option Overrides := do
  return {
    dailyMixPrefix := ← textOfToml? (entries.get? "daily_mix_prefix")
    dailyMixTarget := ← textOfToml? (entries.get? "daily_mix_target")
    exclusionPrefix := ← textOfToml? (entries.get? "daily_mix_exclude_prefix")
    subscriptionsPrefix := ← textOfToml? (entries.get? "subscriptions_prefix")
    subscriptionsTarget := ← textOfToml? (entries.get? "subscriptions_target") }

/-- Reads overrides from TOML. -/
def ofToml? (value : Toml) : Option Overrides :=
  match value, value.entries?, value.items? with
  | .dateTime _, _, _ => some {}
  | _, some entries, _ => ofEntries? entries
  | _, _, some items => ofEntries? (keys.zip items)
  | _, none, none => none

end Overrides

/-- What a configuration says. -/
structure Configuration where
  /-- The path of the library file, if it is named. -/
  library : Option String := none
  /-- The settings. -/
  settings : Settings := {}
  deriving DecidableEq, Repr

namespace Configuration

/-- Reads a configuration from the entries of a document. -/
def ofEntries? (entries : Toml.Entries) : Option Configuration := do
  let library ← Overrides.textOfToml? (entries.get? "library")
  let overrides ← match entries.get? "playlists" with
    | none => some {}
    | some value => Overrides.ofToml? value
  return { library, settings := Settings.overriddenBy {} overrides }

/-- Reads a configuration from its text. -/
def parse (text : String) : Except Failure Configuration :=
  match (Toml.parse text).bind ofEntries? with
  | some configuration => .ok configuration
  | none => .error ⟨.invalidConfig, [.parseConfig]⟩

example : (parse "").toOption = some {} := by decide +kernel
example : (parse "library = 'a.json'\n[playlists]\nsubscriptions_target = \"T\"").toOption =
    some ⟨some "a.json", { subscriptionsTarget := "T" }⟩ := by decide +kernel

end Configuration

end PlaylistCurator
