import Reshape.Command.Action
import Reshape.Proofs.Outcome

namespace Reshape

namespace Action

variable {α β : Type} (s : Scene)

@[simp] theorem fst_bind (x : Action α) (f : α → Action β) :
    ((x >>= f) s).1 = (x s).1 >>= fun a => (f a s).1 := by
  change (Action.bind x f s).1 = _
  unfold Action.bind
  cases x s with
  | mk outcome done => cases outcome <;> rfl

@[simp] theorem fst_pure (a : α) : ((Pure.pure a : Action α) s).1 = .ok a := rfl

@[simp] theorem fst_ite (p : Prop) [Decidable p] (x y : Action α) :
    ((if p then x else y) s).1 = if p then (x s).1 else (y s).1 := by
  split <;> rfl

@[simp] theorem fst_scene : (scene s).1 = .ok s := rfl

@[simp] theorem fst_fail (problem : Problem) :
    ((fail problem : Action α) s).1 = .error problem := rfl

@[simp] theorem fst_ofExcept (x : Except Problem α) : (ofExcept x s).1 = x := rfl

@[simp] theorem fst_ofCore (x : Except Error α) : (ofCore x s).1 = x.mapError .core := rfl

@[simp] theorem fst_print (text : String) : (print text s).1 = .ok () := rfl

@[simp] theorem fst_printError (text : String) : (printError text s).1 = .ok () := rfl

@[simp] theorem fst_logAll (events : List Log.Event) : (logAll events s).1 = .ok () := rfl

@[simp] theorem fst_log (level : Log.Level) (message : String) :
    (log level message s).1 = .ok () := rfl

@[simp] theorem fst_tell (text : Output → String) : (tell text s).1 = .ok () := rfl

@[simp] theorem fst_tellData (value : Json) : (tellData value s).1 = .ok () := rfl

@[simp] theorem fst_save (name content : String) :
    (save name content s).1 = if s.files.canSave name then .ok () else .error .io := by
  unfold save
  split <;> rfl

@[simp] theorem fst_timed (x : Action α) : (timed x s).1 = (x s).1 := rfl

end Action

/-- What ended a command is a fault of a type or of its overrides, with a record or without one. -/
def Problem.isBuildError (problem : Problem) : Bool := problem.error?.any Error.isBuildError

def NoBuildError {α : Type} (x : Except Problem α) : Prop :=
  ∀ problem, x = .error problem → problem.isBuildError = false

namespace NoBuildError

variable {α β : Type}

theorem ok (a : α) : NoBuildError (.ok a : Except Problem α) := by
  simp [NoBuildError]

theorem error {problem : Problem} (h : problem.isBuildError = false) :
    NoBuildError (.error problem : Except Problem α) := by
  intro other hother
  obtain rfl := Except.error.inj hother
  exact h

theorem map {x : Except Problem α} (h : NoBuildError x) (f : α → β) : NoBuildError (x.map f) := by
  cases x with
  | error problem => exact error (h problem rfl)
  | ok a => exact ok (f a)

theorem bind {x : Except Problem α} {f : α → Except Problem β} (hx : NoBuildError x)
    (hf : ∀ a, x = .ok a → NoBuildError (f a)) : NoBuildError (x >>= f) := by
  cases x with
  | error problem => exact error (hx problem rfl)
  | ok a => exact hf a rfl

end NoBuildError

end Reshape
