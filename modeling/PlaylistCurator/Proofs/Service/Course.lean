import PlaylistCurator.Service.Run

/-!
# The course of a dialogue without outage

Without an outage the calls made earlier do not matter to a run, so that the run of a dialogue put
together from parts is put together from the runs of the parts. This module fixes two judgements
on such runs and their rules:

* `Dialogue.Yields`: the dialogue gets through, with a result, a library and a list of calls;
* `Dialogue.Reads`: the dialogue gets through and makes no call that changes the library.

It also says what becomes of a library by the calls alone (`Library.replay`), which is what a run
leaves (`library_run_eq_replay`).
-/

namespace PlaylistCurator

namespace Library

variable (newId : IdSource)

/-- The library after a call. A call that the library refuses leaves it as it was. -/
def afterCall (library : Library) (call : Call) : Library :=
  match library.answer newId call with
  | .ok (_, after) => after
  | .error _ => library

/-- The library after a list of calls, made one after the other. -/
def replay (library : Library) (calls : List Call) : Library :=
  calls.foldl (afterCall newId) library

@[simp]
theorem replay_cons (library : Library) (call : Call) (rest : List Call) :
    library.replay newId (call :: rest) = (library.afterCall newId call).replay newId rest := rfl

@[simp]
theorem replay_append (library : Library) (calls more : List Call) :
    library.replay newId (calls ++ more) = (library.replay newId calls).replay newId more :=
  List.foldl_append

/-- A call that is answered leaves the library that comes with the answer. -/
theorem afterCall_of_answer {library after : Library} {call : Call} {reply : call.Reply}
    (h : library.answer newId call = .ok (reply, after)) :
    library.afterCall newId call = after := by
  rw [afterCall, h]

/-- A call that is refused leaves the library as it was. -/
theorem afterCall_of_refusal {library : Library} {call : Call} {cause : Cause}
    (h : library.answer newId call = .error cause) : library.afterCall newId call = library := by
  rw [afterCall, h]

/-- What holds of a library and is kept by every call that is answered holds after all calls. -/
theorem replay_of_answer {motive : Library → Prop} {library : Library} (calls : List Call)
    (h : motive library)
    (hanswer : ∀ {library after : Library} {call : Call} {reply : call.Reply}, motive library →
      library.answer newId call = .ok (reply, after) → motive after) :
    motive (library.replay newId calls) := by
  induction calls generalizing library with
  | nil => exact h
  | cons call rest ih =>
    rw [replay_cons]
    cases hcall : library.answer newId call with
    | error cause =>
      rw [afterCall_of_refusal newId hcall]
      exact ih h
    | ok answered =>
      rw [afterCall_of_answer newId hcall]
      exact ih (hanswer h hcall)

/-- A read that is answered is answered by the same library. -/
theorem answer_of_isWrite_eq_false {library after : Library} {call : Call} {reply : call.Reply}
    (hread : call.isWrite = false) (h : library.answer newId call = .ok (reply, after)) :
    after = library := by
  cases call with
  | userId | playlists | playlistsAfter =>
    obtain ⟨-, rfl⟩ := Prod.mk.inj (Except.ok.inj h)
    rfl
  | items id =>
    simp only [answer] at h
    split at h
    · cases h
    · obtain ⟨-, rfl⟩ := Prod.mk.inj (Except.ok.inj h)
      rfl
  | itemsAfter id offset next =>
    simp only [answer] at h
    split at h
    · obtain ⟨-, rfl⟩ := Prod.mk.inj (Except.ok.inj h)
      rfl
    · cases h
    · obtain ⟨-, rfl⟩ := Prod.mk.inj (Except.ok.inj h)
      rfl
  | create | add | replace => cases hread

/-- Reads leave the library as it was. -/
theorem replay_of_forall_isWrite_eq_false {library : Library} {calls : List Call}
    (h : ∀ call ∈ calls, call.isWrite = false) : library.replay newId calls = library := by
  induction calls with
  | nil => rfl
  | cons call rest ih =>
    -- A refused read changes nothing, an answered one does not either.
    have hcall : library.afterCall newId call = library := by
      cases hanswer : library.answer newId call with
      | error cause => exact afterCall_of_refusal newId hanswer
      | ok answered =>
        rw [afterCall_of_answer newId hanswer]
        exact answer_of_isWrite_eq_false newId (h call List.mem_cons_self) hanswer
    rw [replay_cons, hcall]
    exact ih fun other hother => h other (List.mem_cons_of_mem call hother)

end Library

namespace Dialogue

variable {α β : Type} {newId : IdSource}

section FirstCall

variable {outage : Outage} {earlier : List Call} {call : Call} {during : Option Activity}
  {next : call.Reply → Dialogue α} {library : Library}

/-- A call that is struck ends the run. -/
theorem runAfter_ask_of_struck {reason : String} (h : outage earlier call = some reason) :
    (ask call during next).runAfter newId outage earlier library =
      ⟨.error ⟨.callFailed reason, during.toList⟩, library, [call]⟩ := by
  simp only [runAfter, h]

/-- A call that is spared and refused ends the run. -/
theorem runAfter_ask_of_refusal (hspared : outage earlier call = .none) {cause : Cause}
    (h : library.answer newId call = .error cause) :
    (ask call during next).runAfter newId outage earlier library =
      ⟨.error ⟨cause, during.toList⟩, library, [call]⟩ := by
  simp only [runAfter, hspared, h]

/-- After a call that is spared and answered the dialogue goes on with the answer. -/
theorem runAfter_ask_of_answer (hspared : outage earlier call = .none) {after : Library}
    {reply : call.Reply} (h : library.answer newId call = .ok (reply, after)) :
    (ask call during next).runAfter newId outage earlier library =
      { (next reply).runAfter newId outage (earlier ++ [call]) after with
        calls := call :: ((next reply).runAfter newId outage (earlier ++ [call]) after).calls } := by
  simp only [runAfter, hspared, h]

end FirstCall

/-- Without an outage a run does not depend on the calls made before it. -/
theorem runAfter_none (dialogue : Dialogue α) (earlier : List Call) (library : Library) :
    dialogue.runAfter newId .none earlier library = dialogue.run newId .none library := by
  induction dialogue generalizing earlier library with
  | done result => rfl
  | fail failure => rfl
  | ask call during next ih =>
    cases hanswer : library.answer newId call with
    | error cause =>
      rw [run, runAfter_ask_of_refusal rfl hanswer, runAfter_ask_of_refusal rfl hanswer]
    | ok answered =>
      rw [run, runAfter_ask_of_answer rfl hanswer, runAfter_ask_of_answer rfl hanswer]
      simp only [ih]

/-- The run of a dialogue that begins with a call that is answered. -/
theorem run_ask_of_answer {call : Call} {during : Option Activity}
    {next : call.Reply → Dialogue α} {library after : Library} {reply : call.Reply}
    (h : library.answer newId call = .ok (reply, after)) :
    (ask call during next).run newId .none library =
      { (next reply).run newId .none after with
        calls := call :: ((next reply).run newId .none after).calls } := by
  rw [← runAfter_none (next reply) ([] ++ [call]) after]
  exact runAfter_ask_of_answer rfl h

/-- The run of a dialogue that begins with a call that is refused. -/
theorem run_ask_of_refusal {call : Call} {during : Option Activity}
    {next : call.Reply → Dialogue α} {library : Library} {cause : Cause}
    (h : library.answer newId call = .error cause) :
    (ask call during next).run newId .none library =
      ⟨.error ⟨cause, during.toList⟩, library, [call]⟩ :=
  runAfter_ask_of_refusal rfl h

/-- What a run leaves is what its calls make of the library. -/
theorem library_run_eq_replay (newId : IdSource) (dialogue : Dialogue α) (library : Library) :
    (dialogue.run newId .none library).library =
      library.replay newId (dialogue.run newId .none library).calls := by
  induction dialogue generalizing library with
  | done result => rfl
  | fail failure => rfl
  | ask call during next ih =>
    -- A refused call ends the run and leaves the library, in the replay as well.
    cases hanswer : library.answer newId call with
    | error cause =>
      rw [run_ask_of_refusal hanswer, Library.replay_cons, Library.afterCall_of_refusal _ hanswer]
      rfl
    | ok answered =>
      rw [run_ask_of_answer hanswer, Library.replay_cons, Library.afterCall_of_answer _ hanswer]
      exact ih answered.1 answered.2

/-! ## Dialogues that get through -/

/-- Without an outage the dialogue gets through on `library`: it ends with `result`, leaves the
library `after` and makes the given calls. -/
def Yields (newId : IdSource) (dialogue : Dialogue α) (library : Library) (result : α)
    (after : Library) (calls : List Call) : Prop :=
  dialogue.run newId .none library = ⟨.ok result, after, calls⟩

/-- Without an outage the dialogue gets through on `library` with `result` and makes reads only. -/
def Reads (newId : IdSource) (dialogue : Dialogue α) (library : Library) (result : α) : Prop :=
  ∃ calls, (∀ call ∈ calls, call.isWrite = false) ∧
    dialogue.Yields newId library result library calls

theorem yields_done (library : Library) (result : α) :
    (done result).Yields newId library result library [] := rfl

/-- A call gets through if the library answers it. -/
theorem yields_call {call : Call} {during : Option Activity} {library after : Library}
    {reply : call.Reply} (h : library.answer newId call = .ok (reply, after)) :
    (Dialogue.call call during).Yields newId library reply after [call] := by
  rw [Yields, Dialogue.call, run_ask_of_answer h]
  rfl

/-- A dialogue that begins with a call makes a call. -/
theorem calls_ne_nil_of_yields_ask (call : Call) {during : Option Activity}
    {next : call.Reply → Dialogue α} {library after : Library} {result : α} {calls : List Call}
    (h : (ask call during next).Yields newId library result after calls) : calls ≠ [] := by
  rintro rfl
  have hcalls := congrArg Run.calls h
  cases hanswer : library.answer newId call with
  | error cause =>
    rw [run_ask_of_refusal hanswer] at hcalls
    cases hcalls
  | ok answered =>
    rw [run_ask_of_answer hanswer] at hcalls
    cases hcalls

/-- A dialogue that gets through goes on with what follows it. -/
theorem run_bind_of_yields {dialogue : Dialogue α} {following : α → Dialogue β}
    {library after : Library} {result : α} {calls : List Call}
    (h : dialogue.Yields newId library result after calls) :
    (dialogue >>= following).run newId .none library =
      { (following result).run newId .none after with
        calls := calls ++ ((following result).run newId .none after).calls } := by
  induction dialogue generalizing library calls with
  | done other =>
    obtain ⟨⟨⟩, rfl, rfl⟩ := Run.mk.inj h
    rfl
  | fail failure => cases (Run.mk.inj h).1
  | ask call during next ih =>
    cases hanswer : library.answer newId call with
    | error cause =>
      rw [Yields, run_ask_of_refusal hanswer] at h
      cases (Run.mk.inj h).1
    | ok answered =>
      -- What comes after the answer gets through as well, with the remaining calls.
      rw [Yields, run_ask_of_answer hanswer] at h
      obtain ⟨hresult, hafter, rfl⟩ := Run.mk.inj h
      have hrest : (next answered.1).Yields newId answered.2 result after
          ((next answered.1).run newId .none answered.2).calls := by
        rw [Yields, ← hresult, ← hafter]
      rw [ask_bind, run_ask_of_answer hanswer,
        ih answered.1 hrest]
      rfl

/-- A run that ends with a result gets through. -/
theorem yields_of_result_eq_ok {dialogue : Dialogue α} {library : Library} {result : α}
    (h : (dialogue.run newId .none library).result = .ok result) :
    dialogue.Yields newId library result (dialogue.run newId .none library).library
      (dialogue.run newId .none library).calls := by
  rw [Yields, ← h]

/-- A dialogue that fails does not come to what follows it. -/
theorem run_bind_of_result_eq_error {dialogue : Dialogue α} {following : α → Dialogue β}
    {library : Library} {failure : Failure}
    (h : (dialogue.run newId .none library).result = .error failure) :
    (dialogue >>= following).run newId .none library =
      ⟨.error failure, (dialogue.run newId .none library).library,
        (dialogue.run newId .none library).calls⟩ := by
  induction dialogue generalizing library with
  | done other => cases h
  | fail other =>
    obtain rfl := Except.error.inj h
    rfl
  | ask call during next ih =>
    rw [ask_bind]
    cases hanswer : library.answer newId call with
    | error cause =>
      rw [run_ask_of_refusal hanswer] at h
      rw [run_ask_of_refusal hanswer, run_ask_of_refusal hanswer, ← Except.error.inj h]
    | ok answered =>
      rw [run_ask_of_answer hanswer] at h
      rw [run_ask_of_answer hanswer, run_ask_of_answer hanswer, ih answered.1 h]

/-- Two dialogues that get through one after the other get through together. -/
theorem Yields.bind {dialogue : Dialogue α} {following : α → Dialogue β}
    {library middle after : Library} {first : α} {second : β} {calls more : List Call}
    (h : dialogue.Yields newId library first middle calls)
    (hfollowing : (following first).Yields newId middle second after more) :
    (dialogue >>= following).Yields newId library second after (calls ++ more) := by
  rw [Yields, run_bind_of_yields h, hfollowing]

theorem Reads.done (library : Library) (result : α) :
    (Dialogue.done result).Reads newId library result :=
  ⟨[], by simp, rfl⟩

/-- Two dialogues that only read one after the other only read together. -/
theorem Reads.bind {dialogue : Dialogue α} {following : α → Dialogue β} {library : Library}
    {first : α} {second : β} (h : dialogue.Reads newId library first)
    (hfollowing : (following first).Reads newId library second) :
    (dialogue >>= following).Reads newId library second := by
  obtain ⟨calls, hcalls, hyields⟩ := h
  obtain ⟨more, hmore, hmoreYields⟩ := hfollowing
  refine ⟨calls ++ more, ?_, hyields.bind hmoreYields⟩
  intro call hcall
  exact (List.mem_append.1 hcall).elim (hcalls call) (hmore call)

/-- Reading for every entry of a list. -/
theorem Reads.mapM {γ : Type} {step : γ → Dialogue α} {result : γ → α} {library : Library}
    {entries : List γ} (h : ∀ entry ∈ entries, (step entry).Reads newId library (result entry)) :
    (entries.mapM step).Reads newId library (entries.map result) := by
  induction entries with
  | nil => exact Reads.done library []
  | cons entry rest ih =>
    rw [List.mapM_cons]
    refine (h entry List.mem_cons_self).bind ?_
    refine (ih fun other hother => h other (List.mem_cons_of_mem entry hother)).bind ?_
    exact Reads.done library _

end Dialogue

end PlaylistCurator
