import PlaylistCurator.CommandLine.Grammar

/-!
# Reading the arguments of a level

The arguments of one level of a command line are taken one after another. A parameter that waits for
a value takes the next argument, unless that has the form of a parameter itself. After `--` all
arguments go to positions.

What was given last is settled only when something else is given by a known name or a place, or
at the end: then its value is checked, and a parameter may not have been settled before. What is not
expected is refused without settling first.

* `Scan.read`: reads the arguments up to the name of a command.
-/

namespace PlaylistCurator.CommandLine

/-- Something that has been given but is not settled. -/
inductive Pending
  | nothing
  /-- A parameter that waits for its value. -/
  | waiting (parameter : Parameter)
  | parameter (parameter : Parameter) (value : String)
  | position (position : Position) (value : String)
  deriving DecidableEq, Repr

/-- The reading of a level, part of the way. -/
structure Scan where
  /-- The parameters that are settled, with their values; switches have none. -/
  parameters : List (Parameter × Option String) := []
  /-- The values at the positions that are settled. -/
  positions : List (Position × String) := []
  /-- What is given but not settled. -/
  pending : Pending := .nothing
  /-- The positions to come. -/
  expected : List Position
  /-- Whether `--` has been given. -/
  isTrailing : Bool := false
  deriving DecidableEq, Repr

/-- The form of an argument. -/
inductive Form
  | plain
  /-- Two hyphens and nothing else. -/
  | separator
  /-- A long name, with the value after an equals sign. -/
  | long (name : String) (value : Option String)
  /-- Short names, or a short name and its value. -/
  | short (names : List Char)
  deriving DecidableEq, Repr

/-- The form that an argument has. -/
def Form.of (argument : String) : Form :=
  match argument.toList with
  | ['-', '-'] => .separator
  | '-' :: '-' :: rest =>
    let name := String.ofList (rest.takeWhile (· != '='))
    match rest.dropWhile (· != '=') with
    | [] => .long name none
    | _ :: value => .long name (some (String.ofList value))
  | '-' :: c :: rest => .short (c :: rest)
  | _ => .plain

namespace Scan

/-- The reading of a level before its first argument. -/
def start (level : Level) : Scan := { expected := level.positions }

/-- Settles a parameter, which may not be settled yet. -/
def settle (scan : Scan) (parameter : Parameter) (value : Option String) : Except Refusal Scan :=
  if (scan.parameters.lookup parameter).isSome then .error .repeatedParameter
  else if value.all (parameter.accepts ·) then
    .ok { scan with parameters := (parameter, value) :: scan.parameters }
  else .error .invalidValue

/-- Settles what has been given last. -/
def resolve (scan : Scan) : Except Refusal Scan :=
  let settled := { scan with pending := .nothing }
  match scan.pending with
  | .nothing => .ok settled
  | .waiting _ => .error .invalidValue
  | .parameter parameter value => settled.settle parameter (some value)
  | .position position value =>
    if position.accepts value then
      .ok { settled with positions := (position, value) :: settled.positions }
    else .error .invalidValue

/-- Takes a switch. Help and version are given at once. -/
def takeSwitch (scan : Scan) (parameter : Parameter) : Except Refusal Scan := do
  let scan ← scan.resolve
  match parameter with
  | .help => .error .help
  | .version => .error .version
  | _ => scan.settle parameter none

/-- Takes a parameter, whose value may stand in the same argument. -/
def takeParameter (scan : Scan) (parameter : Parameter) (value : Option String) :
    Except Refusal Scan := do
  let scan ← scan.resolve
  match value with
  | none => return { scan with pending := .waiting parameter }
  | some value => scan.settle parameter (some value)

/-- Takes a long name. -/
def takeLong (scan : Scan) (level : Level) (name : String) (value : Option String) :
    Except Refusal Scan :=
  match level.long? name with
  | none => .error .unexpectedArgument
  | some parameter =>
    if parameter.takesValue then scan.takeParameter parameter value
    else if value.isSome then .error .needlessValue
    else scan.takeSwitch parameter

/-- Takes short names in turn; the first one that takes a value has the rest as its value, without
an equals sign in front. -/
def takeShort (level : Level) : (names : List Char) → Scan → Except Refusal Scan
  | [], scan => .ok scan
  | name :: rest, scan =>
    match level.short? name with
    | none => .error .unexpectedArgument
    | some parameter =>
      if parameter.takesValue then
        scan.takeParameter parameter <| match rest with
          | [] => none
          | '=' :: value => some (String.ofList value)
          | value => some (String.ofList value)
      else (scan.takeSwitch parameter).bind (takeShort level rest)

/-- Takes an argument at its place. -/
def takePlain (scan : Scan) (level : Level) (argument : String) : Except Refusal Scan :=
  match scan.expected with
  | position :: expected => do
    let scan ← scan.resolve
    return { scan with pending := .position position argument, expected }
  | [] =>
    let isName := (Verb.ofName? argument).isSome || argument == Verb.helpName
    if !level.hasVerbs || (scan.isTrailing && isName) then .error .unexpectedArgument
    else .error .unknownCommand

/-- Takes an argument that is not the name of a command. -/
def take (scan : Scan) (level : Level) (argument : String) : Except Refusal Scan :=
  if scan.isTrailing then scan.takePlain level argument
  else match Form.of argument, scan.pending with
    | .separator, _ => .ok { scan with isTrailing := true }
    | .long name value, _ => scan.takeLong level name value
    | .short names, _ => takeShort level names scan
    | .plain, .waiting parameter => .ok { scan with pending := .parameter parameter argument }
    | .plain, _ => scan.takePlain level argument

/-- Whether the name of a command can stand next. -/
def expectsVerb (scan : Scan) (level : Level) : Bool :=
  level.hasVerbs && !scan.isTrailing && match scan.pending with
    | .waiting _ => false
    | _ => true

/-- What asking for help comes to: every name after it must be one of a command, and no command has
further commands under it. -/
def helpOn : (names : List String) → Refusal
  | [] => .help
  | [name] =>
    if (Verb.ofName? name).isSome || name == Verb.helpName then .help else .unknownCommand
  | _ :: _ :: _ => .unknownCommand

/-- Reads arguments up to the name of a command, if there is one, with the arguments after it. -/
def read (level : Level) :
    (arguments : List String) → Scan → Except Refusal (Scan × Option (Verb × List String))
  | [], scan => .ok (scan, none)
  | argument :: rest, scan =>
    let verb := if scan.expectsVerb level then Verb.ofName? argument else none
    match verb with
    | some verb => .ok (scan, some (verb, rest))
    | none =>
      if scan.expectsVerb level ∧ argument = Verb.helpName then .error (helpOn rest)
      else (scan.take level argument).bind (read level rest)

end Scan

end PlaylistCurator.CommandLine
