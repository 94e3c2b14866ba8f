import PlaylistCurator.CommandLine.Help
import PlaylistCurator.CommandLine.Invocation
import PlaylistCurator.Library.File
import PlaylistCurator.Service.Run

/-!
# The program

What the program does from its arguments to its exit code, as a task on files. A job is done on the
library in memory; only a job that has written to it and has not failed is followed by saving the
library to the file it was read from. The program runs with whatever texts the library that reads
command lines words.

* `Program.run`: the whole program.
-/

namespace PlaylistCurator

/-- What is left to chance. -/
structure Chance where
  /-- The id of a playlist that is created. -/
  newId : IdSource
  /-- The order into which tracks are put. -/
  shuffle : Curation.Shuffle

/-- How the program ends. -/
structure Outcome where
  /-- The exit code. -/
  exitCode : UInt32 := 0
  /-- What is printed. -/
  output : String := ""
  /-- What is printed about errors. -/
  errors : String := ""
  deriving DecidableEq, Repr

namespace Outcome

/-- The lines about the causes of a failure, outermost first. They are numbered if there are more
than one. -/
def causeLines : (causes : List String) → List String
  | [] => []
  | [cause] => ["", "Caused by:", "    " ++ cause]
  | causes => "" :: "Caused by:" :: causes.zipIdx.map fun (cause, i) => s!"    {i}: {cause}"

/-- The end of a program that has printed something and then failed. -/
def failed (output : String) (failure : Failure) : Outcome where
  exitCode := 1
  output := output
  errors := Curation.Job.ofLines
    (("Error: " ++ failure.message) :: causeLines failure.chain.tail)

/-- The end of a program whose command line is refused, with the text about it. -/
def refused (refusal : CommandLine.Refusal) (text : String) : Outcome :=
  if refusal.isRequested then { output := text } else { exitCode := 2, errors := text }

end Outcome

namespace Program

open CommandLine (Command Invocation Texts)
open Curation (Job)

/-- What a job works with. -/
structure Workspace where
  /-- The settings. -/
  settings : Settings
  /-- The path of the library file. -/
  path : String
  /-- The library of that file. -/
  library : Library

/-- Finds and reads the configuration and the library. -/
def workspace (environment : Environment) (invocation : Invocation) : FileTask Workspace := do
  let configPath ← match invocation.configFile with
    | some path => pure path
    | none => environment.configPath
  let configuration ← Configuration.load configPath
  let path ← configuration.libraryPath environment invocation.library
  return ⟨configuration.settings, path, ← Library.load path⟩

/-- Saves a library to a path unless nothing was written to it. -/
def saveWritten (path : String) (library : Library) : FileTask Unit :=
  if library.writes.isEmpty then return () else library.save path

/-- Does a job and saves what it has changed. -/
def finish (chance : Chance) (job : Job) (workspace : Workspace) : FileTask Outcome :=
  let run := (job.dialogue workspace.settings chance.shuffle).run chance.newId .none
    workspace.library
  match run.result with
  | .error failure => return .failed "" failure
  | .ok product => do
    let output := job.report product
    match ← (saveWritten workspace.path run.library).attempt with
    | .error failure => return .failed output failure
    | .ok () => return { output }

/-- Carries out an invocation. -/
def perform (environment : Environment) (chance : Chance) (texts : Texts)
    (invocation : Invocation) : FileTask Outcome :=
  match invocation.command with
  | .commands => return { output := CommandLine.summary }
  | .completion shell => return { output := texts.completion shell CommandLine.programName }
  | .curate job => do
    match ← (workspace environment invocation).attempt with
    | .error failure => return .failed "" failure
    | .ok workspace => finish chance job workspace

/-- The program, called with the arguments after its name. -/
def run (environment : Environment) (chance : Chance) (arguments : List String)
    (texts : Texts := .blank) : FileTask Outcome :=
  match Invocation.ofArguments environment arguments with
  | .error refusal => return .refused refusal (refusal.text texts environment arguments)
  | .ok invocation => perform environment chance texts invocation

end Program

end PlaylistCurator
