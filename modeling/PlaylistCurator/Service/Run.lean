import PlaylistCurator.Library
import PlaylistCurator.Service.Dialogue

/-!
# Running a dialogue

A dialogue is run on a library, while some calls may not get through. Which calls those are is an
outage: a rule that looks at the calls made before in the same run and at the call itself. A call
that does not get through reaches neither the library nor its record of writes, but it has been made
all the same.

* `Dialogue.run`: the outcome of a run, with the calls that were made.
* `Outage.ofFaults`: the outage of a list of expected faults.
-/

namespace PlaylistCurator

/-- Which calls do not get through, and why: a rule over the calls made before in the same run and
the call itself. -/
abbrev Outage : Type := (earlier : List Call) → Call → Option String

namespace Outage

/-- Every call gets through. -/
def none : Outage := fun _ _ => .none

/-- A call that is expected not to get through: the `nth` of those that it concerns. -/
structure Fault where
  /-- Which calls are counted. -/
  concerns : Call → Bool
  /-- The number of the call that fails, counted from one. -/
  nth : Nat
  /-- Why it fails. -/
  reason : String

/-- Whether a fault strikes a call. -/
def Fault.strikes (fault : Fault) (earlier : List Call) (call : Call) : Bool :=
  fault.concerns call && earlier.countP fault.concerns + 1 == fault.nth

/-- The calls that one of the given faults strikes do not get through. -/
def ofFaults (faults : List Fault) : Outage := fun earlier call =>
  (faults.find? (·.strikes earlier call)).map (·.reason)

end Outage

/-- How a run of a dialogue has ended. -/
structure Run (α : Type) where
  /-- The result, or the failure that ended the run. -/
  result : Except Failure α
  /-- The library after the run. -/
  library : Library
  /-- The calls that were made, oldest first. -/
  calls : List Call

namespace Dialogue

variable {α : Type}

/-- Runs a dialogue after the calls `earlier` of the same run. -/
def runAfter (newId : IdSource) (outage : Outage) :
    Dialogue α → (earlier : List Call) → Library → Run α
  | .done result, _, library => ⟨.ok result, library, []⟩
  | .fail failure, _, library => ⟨.error failure, library, []⟩
  | .ask call during next, earlier, library =>
    match outage earlier call with
    | some reason => ⟨.error ⟨.callFailed reason, during.toList⟩, library, [call]⟩
    | none =>
      match library.answer newId call with
      | .error cause => ⟨.error ⟨cause, during.toList⟩, library, [call]⟩
      | .ok (reply, library) =>
        let rest := (next reply).runAfter newId outage (earlier ++ [call]) library
        { rest with calls := call :: rest.calls }

/-- Runs a dialogue on a library. -/
def run (newId : IdSource) (outage : Outage) (dialogue : Dialogue α) (library : Library) : Run α :=
  dialogue.runAfter newId outage [] library

end Dialogue

end PlaylistCurator
