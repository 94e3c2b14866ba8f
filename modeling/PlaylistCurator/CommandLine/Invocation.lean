import PlaylistCurator.CommandLine.Arguments
import PlaylistCurator.Configuration.Location

/-!
# Reading command lines

A command line is read level by level: the program's own arguments, the name of a command and the
arguments of the command. The paths of files can be given at both levels, of which the command's
counts first, and by the environment, which counts last. A value from the environment is checked at
every level that does not give the parameter.

* `Invocation.ofArguments`: the invocation that a command line asks for.
-/

namespace PlaylistCurator.CommandLine

namespace Scan

/-- The value given for a parameter. -/
def value? (scan : Scan) (parameter : Parameter) : Option String :=
  (scan.parameters.lookup parameter).join

/-- Whether a switch has been given. -/
def isOn (scan : Scan) (parameter : Parameter) : Bool :=
  (scan.parameters.lookup parameter).isSome

/-- The value given at a position, which must be given. -/
def required (scan : Scan) (position : Position) : Except Refusal String :=
  match scan.positions.lookup position with
  | some value => .ok value
  | none => .error .missingArgument

end Scan

/-- The value that the environment gives for a parameter. -/
def Parameter.inEnvironment? (environment : Environment) (parameter : Parameter) :
    Option String :=
  parameter.environmentName?.bind environment

/-- Whether the value that the environment gives for a parameter, if any, can be used where a level
does not give one. -/
def Scan.allows (scan : Scan) (environment : Environment) (parameter : Parameter) : Bool :=
  scan.isOn parameter || (parameter.inEnvironment? environment).all (parameter.accepts ·)

/-- The reading of a level after its last argument. -/
def Scan.complete (scan : Scan) (level : Level) (environment : Environment) :
    Except Refusal Scan := do
  let scan ← scan.resolve
  if level.parameters.all (scan.allows environment) then return scan else .error .invalidValue

/-- The command that is called with arguments. -/
def Command.ofScan (verb : Verb) (scan : Scan) : Except Refusal Command :=
  match verb with
  | .daily => return .curate .daily
  | .subscriptions => return .curate .subscriptions
  | .listPlaylists => return .curate (.list (scan.value? .filter) (scan.value? .sort))
  | .copy => do
    let source ← scan.required .source
    let destination ← scan.required .destination
    return .curate (.copy source destination (scan.isOn .randomize))
  | .randomize => return .curate (.randomize (← scan.required .name))
  | .commands => return .commands
  | .completion => do
    match Shell.ofName? (← scan.required .shell) with
    | some shell => return .completion shell
    | none => .error .invalidValue

namespace Invocation

/-- What is wrong with a command line that names no command. -/
def withoutCommand (environment : Environment) (outer : Scan) : Refusal :=
  let isGiven := fun parameter =>
    outer.isOn parameter || (parameter.inEnvironment? environment).isSome
  if Level.program.parameters.any isGiven then .noCommand else .nothingGiven

/-- The path given for a parameter at one of the levels or by the environment. -/
def path? (environment : Environment) (outer inner : Scan) (parameter : Parameter) :
    Option String :=
  ((inner.value? parameter).or (outer.value? parameter)).or
    (parameter.inEnvironment? environment)

/-- The invocation that the arguments after the program's name ask for. -/
def ofArguments (environment : Environment) (arguments : List String) :
    Except Refusal Invocation := do
  match ← Scan.read .program arguments (.start .program) with
  | (outer, none) => do
    let outer ← outer.complete .program environment
    .error (withoutCommand environment outer)
  | (outer, some (verb, arguments)) => do
    let (inner, _) ← Scan.read verb.level arguments (.start verb.level)
    let inner ← inner.complete verb.level environment
    let command ← Command.ofScan verb inner
    let outer ← outer.complete .program environment
    return {
      configFile := path? environment outer inner .configFile
      library := path? environment outer inner .library
      command }

example : (ofArguments (fun _ => none) ["-l", "a", "list", "-fn:x", "--library=b"]).toOption =
    some ⟨none, some "b", .curate (.list (some "n:x") none)⟩ := by decide +kernel
example : (ofArguments (fun _ => none) ["copy", "-r", "A", "--", "-B"]).toOption =
    some ⟨none, none, .curate (.copy "A" "-B" true)⟩ := by decide +kernel
example : (ofArguments (fun _ => none) ["list", "-f", "-s", "x"]).toOption = none := by
  decide +kernel

end Invocation

end PlaylistCurator.CommandLine
