import PlaylistCurator.Failure
import PlaylistCurator.Service.Call

/-!
# Dialogues with the music service

A command is a dialogue: it makes a call, and how it goes on depends on the answer. A call that is
not answered ends the dialogue, with a failure that says what was being done. Dialogues are data, so
that every way a dialogue can go is open to induction.

* `Dialogue.call`: the dialogue of a single call.
* the instance `LawfulMonad Dialogue`: dialogues can be put together freely.
-/

namespace PlaylistCurator

/-- A dialogue with the music service that is to yield a result. -/
inductive Dialogue (α : Type)
  /-- The dialogue is over. -/
  | done (result : α)
  /-- The dialogue has failed. -/
  | fail (failure : Failure)
  /-- Makes a call as part of an activity and goes on with its answer. -/
  | ask (call : Call) (during : Option Activity) (next : call.Reply → Dialogue α)

namespace Dialogue

variable {α β γ : Type}

/-- One dialogue after another, which may use its result. -/
def bind : Dialogue α → (α → Dialogue β) → Dialogue β
  | .done result, following => following result
  | .fail failure, _ => .fail failure
  | .ask call during next, following => .ask call during fun reply => (next reply).bind following

instance : Monad Dialogue where
  pure := .done
  bind := bind

/-- The dialogue of a single call. -/
def call (call : Call) (during : Option Activity := none) : Dialogue call.Reply :=
  .ask call during .done

/-- The dialogue that fails at once. -/
def failWith (cause : Cause) : Dialogue α :=
  .fail { cause }

@[simp]
theorem pure_eq (result : α) : (pure result : Dialogue α) = .done result := rfl

@[simp]
theorem done_bind (result : α) (following : α → Dialogue β) :
    (Dialogue.done result >>= following) = following result := rfl

@[simp]
theorem fail_bind (failure : Failure) (following : α → Dialogue β) :
    (Dialogue.fail failure >>= following) = .fail failure := rfl

@[simp]
theorem ask_bind (call : Call) (during : Option Activity) (next : call.Reply → Dialogue α)
    (following : α → Dialogue β) :
    (Dialogue.ask call during next >>= following) =
      .ask call during fun reply => next reply >>= following := rfl

@[simp]
theorem call_bind (c : Call) (during : Option Activity) (following : c.Reply → Dialogue β) :
    (call c during >>= following) = .ask c during following := rfl

/-- Ending a dialogue with its own result changes nothing. -/
theorem bind_done (dialogue : Dialogue α) : (dialogue >>= .done) = dialogue := by
  induction dialogue with
  | done => rfl
  | fail => rfl
  | ask c during next ih => simp [ih]

/-- Dialogues follow one another in one way only. -/
theorem bind_assoc (dialogue : Dialogue α) (second : α → Dialogue β) (third : β → Dialogue γ) :
    (dialogue >>= second >>= third) = (dialogue >>= fun result => second result >>= third) := by
  induction dialogue with
  | done => rfl
  | fail => rfl
  | ask c during next ih => simp [ih]

instance : LawfulMonad Dialogue :=
  LawfulMonad.mk' Dialogue bind_done (fun _ _ => rfl) bind_assoc

end Dialogue

end PlaylistCurator
