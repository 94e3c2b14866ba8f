import PlaylistCurator.Program

/-!
# The executable

Carries out the program on the files of the machine, with the environment and the random numbers of
the machine. It words no help, no faults of command lines and no scripts for shells.
-/

namespace PlaylistCurator

/-- Whether an action on the machine succeeds. -/
def succeeds (action : IO Unit) : IO Bool := do
  match ← action.toBaseIO with
  | .ok _ => return true
  | .error _ => return false

/-- The result of an action on the machine that succeeds. -/
def result? {α : Type} (action : IO α) : IO (Option α) := do
  match ← action.toBaseIO with
  | .ok result => return some result
  | .error _ => return none

/-- Carries out a task on the files of the machine. -/
def FileTask.perform {α : Type} : FileTask α → IO (Except Failure α)
  | .done result => return .ok result
  | .fail failure => return .error failure
  | .probe path next => do
    (next (← result? (IO.FS.realPath path)).isSome).perform
  | .read path next => do
    (next (← result? (IO.FS.readFile path))).perform
  | .makeDirectory path next => do
    (next (← succeeds (IO.FS.createDirAll path))).perform
  | .write path text next => do
    (next (← succeeds (IO.FS.writeFile path text))).perform

/-- The variables of the environment that the program looks at. -/
def readEnvironment : IO Environment := do
  let names := ["HOME", "XDG_CONFIG_HOME", "XDG_DATA_HOME", "SPOTCRATES_CONFIG",
    "SPOTCRATES_LIBRARY"]
  let values ← names.mapM fun name => return (name, ← IO.getEnv name)
  return fun name => (values.lookup name).join

/-- The characters of random ids. -/
def idCharacters : List Char :=
  "ABCDEFGHIJKLMNOPQRSTUVWXYZabcdefghijklmnopqrstuvwxyz0123456789".toList

/-- A random text of 22 letters and digits. -/
def randomId : IO String := do
  let characters ← (List.range 22).mapM fun _ => do
    return idCharacters.getD (← IO.rand 0 (idCharacters.length - 1)) '0'
  return String.ofList characters

/-- The greatest random number that is drawn. -/
def randomBound : Nat := 2147483647

/-- Random positions from a generator. -/
def randomPositions : (count : Nat) → StdGen → List Nat
  | 0, _ => []
  | count + 1, generator =>
    let (position, generator) := randNat generator 0 randomBound
    position :: randomPositions count generator

/-- Chance on the machine. -/
def randomChance : IO Chance := do
  let id ← randomId
  let seed ← IO.rand 0 randomBound
  return {
    newId := .ofCandidate id
    shuffle := .ofPositions fun count => randomPositions count (mkStdGen seed) }

end PlaylistCurator

open PlaylistCurator in
/-- Runs the program. -/
def main (arguments : List String) : IO UInt32 := do
  let environment ← readEnvironment
  let chance ← randomChance
  match ← (Program.run environment chance arguments .blank).perform with
  | .error failure =>
    IO.eprintln failure.message
    return 1
  | .ok outcome =>
    IO.print outcome.output
    IO.eprint outcome.errors
    return outcome.exitCode
