import PlaylistCurator.Proofs.Service.Course

/-!
# Runs under an outage

An outage changes nothing about a run but where it ends: the run goes like the one without outage
up to the first call that is struck, which is the last one made, and the library is what the calls
before it have made of it. Main statements:

* `Dialogue.run_eq_or_interrupted`: a run is spared, or interrupted in this way;
* `Dialogue.isPrefix_calls_run`: the calls of a run are the first calls of the one without outage;
* `Dialogue.interrupted_of_struck`: a struck call is the last one, and the run fails by its reason.
-/

namespace PlaylistCurator

/-- None of the calls is struck, made one after the other after the calls `earlier`. -/
def Outage.Spares (outage : Outage) : (earlier calls : List Call) → Prop
  | _, [] => True
  | earlier, call :: rest =>
    outage earlier call = Option.none ∧ outage.Spares (earlier ++ [call]) rest

/-- A call among those that are spared is not struck. -/
theorem Outage.Spares.eq_none {outage : Outage} {earlier before after : List Call} {call : Call}
    (h : outage.Spares earlier (before ++ call :: after)) :
    outage (earlier ++ before) call = Option.none := by
  induction before generalizing earlier with
  | nil => simpa using h.1
  | cons first before ih => simpa using ih h.2

/-- An interrupted run: some of the calls of the run `free` without outage are spared, the next one
is struck and ends the run, and the library is what the spared calls have made of it. -/
structure Run.IsInterrupted {α : Type} (newId : IdSource) (outage : Outage) (earlier : List Call)
    (library : Library) (free run : Run α) (before : List Call) (call : Call) (reason : String) :
    Prop where
  /-- The calls made are the first ones of the run without outage. -/
  isPrefix : before ++ [call] <+: free.calls
  /-- The calls before the last one are spared. -/
  spares : outage.Spares earlier before
  /-- The last call is struck. -/
  struck : outage (earlier ++ before) call = some reason
  /-- The struck call is the last one made. -/
  calls_eq : run.calls = before ++ [call]
  /-- The run fails for the reason that the struck call has failed. -/
  result_eq : ∃ during, run.result = .error ⟨.callFailed reason, during⟩
  /-- The struck call has had no effect. -/
  library_eq : run.library = library.replay newId before

namespace Dialogue

variable {α : Type} {newId : IdSource} {outage : Outage}

/-- The first call of a dialogue is made in any case. -/
theorem singleton_prefix_calls_run_ask (call : Call) (during : Option Activity)
    (next : call.Reply → Dialogue α) (library : Library) :
    [call] <+: ((ask call during next).run newId .none library).calls := by
  cases hanswer : library.answer newId call with
  | error cause =>
    have hcalls : ((ask call during next).run newId .none library).calls = [call] := by
      rw [run_ask_of_refusal hanswer]
    exact hcalls ▸ List.prefix_refl [call]
  | ok answered =>
    rw [run_ask_of_answer hanswer]
    exact ⟨_, rfl⟩

/-- A run under an outage is spared and goes like the run without outage, or it is interrupted. -/
theorem runAfter_eq_or_interrupted (dialogue : Dialogue α) (earlier : List Call)
    (library : Library) :
    (outage.Spares earlier (dialogue.run newId .none library).calls ∧
        dialogue.runAfter newId outage earlier library = dialogue.run newId .none library) ∨
      ∃ before call reason, Run.IsInterrupted newId outage earlier library
        (dialogue.run newId .none library) (dialogue.runAfter newId outage earlier library)
        before call reason := by
  -- By induction on the dialogue; what was called earlier grows by the call that is answered.
  induction dialogue generalizing earlier library with
  | done result => exact .inl ⟨trivial, rfl⟩
  | fail failure => exact .inl ⟨trivial, rfl⟩
  | ask call during next ih =>
    cases hstruck : outage earlier call with
    | some reason =>
      -- The run is interrupted here: no call is spared.
      rw [runAfter_ask_of_struck hstruck]
      exact .inr ⟨[], call, reason, singleton_prefix_calls_run_ask call during next library, trivial,
        by simpa using hstruck, rfl, ⟨_, rfl⟩, rfl⟩
    | none =>
      cases hanswer : library.answer newId call with
      | error cause =>
        -- A refused call ends the run with and without outage.
        rw [run_ask_of_refusal hanswer, runAfter_ask_of_refusal hstruck hanswer]
        exact .inl ⟨⟨hstruck, trivial⟩, rfl⟩
      | ok answered =>
        rw [run_ask_of_answer hanswer, runAfter_ask_of_answer hstruck hanswer]
        -- The call is spared, and the induction hypothesis says how the run goes on.
        rcases ih answered.1 (earlier ++ [call]) answered.2 with
          ⟨hspares, heq⟩ | ⟨before, last, reason, hcut⟩
        · exact .inl ⟨⟨hstruck, hspares⟩, by rw [heq]⟩
        · refine .inr ⟨call :: before, last, reason, ?_, ⟨hstruck, hcut.spares⟩, ?_, ?_,
            hcut.result_eq, ?_⟩
          · exact List.cons_prefix_cons.2 ⟨rfl, hcut.isPrefix⟩
          · simpa using hcut.struck
          · simp only [hcut.calls_eq, List.cons_append]
          · rw [Library.replay_cons, Library.afterCall_of_answer newId hanswer]
            exact hcut.library_eq

/-- A run under an outage is spared and goes like the run without outage, or it is interrupted. -/
theorem run_eq_or_interrupted (newId : IdSource) (outage : Outage) (dialogue : Dialogue α)
    (library : Library) :
    (outage.Spares [] (dialogue.run newId .none library).calls ∧
        dialogue.run newId outage library = dialogue.run newId .none library) ∨
      ∃ before call reason, Run.IsInterrupted newId outage [] library
        (dialogue.run newId .none library) (dialogue.run newId outage library)
        before call reason :=
  runAfter_eq_or_interrupted dialogue [] library

/-- The calls of a run are the first calls of the run without outage. -/
theorem isPrefix_calls_run (dialogue : Dialogue α) (library : Library) :
    (dialogue.run newId outage library).calls <+: (dialogue.run newId .none library).calls := by
  rcases dialogue.run_eq_or_interrupted newId outage library with
    ⟨-, heq⟩ | ⟨before, call, reason, hcut⟩
  · exact heq ▸ List.prefix_refl _
  · rw [hcut.calls_eq]
    exact hcut.isPrefix

/-- Whatever an outage strikes, a run leaves what some calls make of the library. -/
theorem exists_library_run_eq_replay (newId : IdSource) (outage : Outage) (dialogue : Dialogue α)
    (library : Library) :
    ∃ calls, (dialogue.run newId outage library).library = library.replay newId calls := by
  rcases dialogue.run_eq_or_interrupted newId outage library with
    ⟨-, heq⟩ | ⟨before, call, reason, hcut⟩
  · exact ⟨_, heq ▸ library_run_eq_replay newId dialogue library⟩
  · exact ⟨before, hcut.library_eq⟩

/-- A run that ends with a result is the run without outage. -/
theorem run_eq_of_result_eq_ok {dialogue : Dialogue α} {library : Library} {result : α}
    (h : (dialogue.run newId outage library).result = .ok result) :
    dialogue.run newId outage library = dialogue.run newId .none library := by
  rcases dialogue.run_eq_or_interrupted newId outage library with
    ⟨-, heq⟩ | ⟨before, call, reason, hcut⟩
  · exact heq
  · obtain ⟨during, hresult⟩ := hcut.result_eq
    rw [hresult] at h
    cases h

/-- A run whose calls are all spared is the run without outage. -/
theorem run_eq_of_spares {dialogue : Dialogue α} {library : Library}
    (h : outage.Spares [] (dialogue.run newId outage library).calls) :
    dialogue.run newId outage library = dialogue.run newId .none library := by
  rcases dialogue.run_eq_or_interrupted newId outage library with
    ⟨-, heq⟩ | ⟨before, call, reason, hcut⟩
  · exact heq
  · -- The struck call would be one of those that are spared.
    rw [hcut.calls_eq] at h
    have hspared := h.eq_none
    rw [hcut.struck] at hspared
    cases hspared

/-- A run that has made a struck call is interrupted at this call. -/
theorem interrupted_of_struck {dialogue : Dialogue α} {library : Library}
    {before after : List Call} {call : Call} {reason : String}
    (hcalls : (dialogue.run newId outage library).calls = before ++ call :: after)
    (hstruck : outage before call = some reason) :
    after = [] ∧ Run.IsInterrupted newId outage [] library (dialogue.run newId .none library)
      (dialogue.run newId outage library) before call reason := by
  rcases dialogue.run_eq_or_interrupted newId outage library with
    ⟨hspares, heq⟩ | ⟨spared, last, lastReason, hcut⟩
  · rw [← heq, hcalls] at hspares
    have hnone := hspares.eq_none
    rw [List.nil_append, hstruck] at hnone
    cases hnone
  · rw [hcut.calls_eq] at hcalls
    rcases List.eq_nil_or_concat after with rfl | ⟨rest, final, rfl⟩
    · obtain ⟨rfl, hlast⟩ := List.append_inj' hcalls rfl
      obtain rfl : last = call := List.singleton_inj.1 hlast
      have hreason := hcut.struck
      rw [List.nil_append, hstruck] at hreason
      exact ⟨rfl, Option.some.inj hreason ▸ hcut⟩
    · -- The struck call would be one of those that are spared.
      have hsplit : spared ++ [last] = (before ++ call :: rest) ++ [final] := by
        simpa using hcalls
      obtain ⟨hspared, -⟩ := List.append_inj' hsplit rfl
      have hnone := (hspared ▸ hcut.spares).eq_none
      rw [List.nil_append, hstruck] at hnone
      cases hnone

end Dialogue

end PlaylistCurator
