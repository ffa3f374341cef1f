import Reshape.Proofs.Command.Inputs

namespace Reshape

namespace Effects

@[simp] theorem empty_append (e : Effects) : ({} : Effects) ++ e = e := by
  change append {} e = e
  simp [append]

@[simp] theorem append_empty (e : Effects) : e ++ ({} : Effects) = e := by
  change append e {} = e
  simp [append]

theorem output_append (text more : String) :
    ({ output := text } : Effects) ++ ({ output := more } : Effects) =
      { output := text ++ more } := by
  change append { output := text } { output := more } = _
  simp [append]

theorem saved_append (text : String) (files : List (String × String)) :
    ({ saved := files } : Effects) ++ ({ output := text } : Effects) =
      { output := text, saved := files } := by
  change append { saved := files } { output := text } = _
  simp [append]

end Effects

namespace Action

variable {α β : Type}

/-- What an action comes to, and what it does apart from its log. -/
def seen (x : Action α) (s : Scene) : Except Problem α × Effects :=
  ((x s).1, { (x s).2 with events := [] })

/-- The action leaves no trace outside its log. -/
def Silent (x : Action α) (s : Scene) : Prop := (x.seen s).2 = {}

variable {s : Scene}

theorem seen_bind (x : Action α) (f : α → Action β) (s : Scene) :
    (x >>= f).seen s = match (x s).1 with
      | .error problem => (.error problem, (x.seen s).2)
      | .ok a => (((f a).seen s).1, (x.seen s).2 ++ ((f a).seen s).2) := by
  unfold seen
  change ((Action.bind x f s).1, { (Action.bind x f s).2 with events := [] }) = _
  unfold Action.bind
  cases x s with
  | mk outcome done => cases outcome <;> rfl

theorem seen_bind_of_ok {x : Action α} {a : α} (h : (x s).1 = .ok a) (f : α → Action β) :
    (x >>= f).seen s = (((f a).seen s).1, (x.seen s).2 ++ ((f a).seen s).2) := by
  rw [seen_bind, h]

theorem seen_bind_of_error {x : Action α} {problem : Problem} (h : (x s).1 = .error problem)
    (f : α → Action β) : (x >>= f).seen s = (.error problem, (x.seen s).2) := by
  rw [seen_bind, h]

namespace Silent

variable {x : Action α}

theorem seen_bind (hx : x.Silent s) {a : α} (h : (x s).1 = .ok a) (f : α → Action β) :
    (x >>= f).seen s = (f a).seen s := by
  rw [seen_bind_of_ok h, show (x.seen s).2 = {} from hx, Effects.empty_append]

theorem seen_bind_error (hx : x.Silent s) {problem : Problem} (h : (x s).1 = .error problem)
    (f : α → Action β) : (x >>= f).seen s = (.error problem, {}) := by
  rw [seen_bind_of_error h, show (x.seen s).2 = {} from hx]

protected theorem pure (a : α) : (Pure.pure a : Action α).Silent s := rfl

protected theorem scene : Action.scene.Silent s := rfl

protected theorem fail (problem : Problem) : (Action.fail problem : Action α).Silent s := rfl

protected theorem ofExcept (x : Except Problem α) : (Action.ofExcept x).Silent s := rfl

protected theorem ofCore (x : Except Error α) : (Action.ofCore x).Silent s := rfl

protected theorem logAll (events : List Log.Event) : (Action.logAll events).Silent s := rfl

protected theorem log (level : Log.Level) (message : String) :
    (Action.log level message).Silent s := rfl

protected theorem bind (hx : x.Silent s) {f : α → Action β} (hf : ∀ a, (f a).Silent s) :
    (x >>= f).Silent s := by
  cases h : (x s).1 with
  | error problem =>
    unfold Silent
    rw [hx.seen_bind_error h]
  | ok a =>
    unfold Silent
    rw [hx.seen_bind h]
    exact hf a

end Silent

theorem seen_timed (x : Action α) (s : Scene) : (timed x).seen s = x.seen s := by
  unfold seen timed
  cases x s with
  | mk outcome done =>
    change (outcome, { done.append _ with events := [] }) = _
    simp [Effects.append]

theorem seen_print (text : String) : (print text).seen s = (.ok (), { output := text }) := rfl

theorem seen_printError (text : String) :
    (printError text).seen s = (.ok (), { errors := text ++ "\n" }) := rfl

theorem seen_tell (text : Output → String) :
    (tell text).seen s = (.ok (), { output := text s.output }) := by
  unfold tell
  rw [Silent.scene.seen_bind (fst_scene s), seen_print]

theorem seen_tellData (value : Json) :
    (tellData value).seen s = (.ok (), { output := s.output.data value }) := by
  unfold tellData
  rw [(Silent.log _ _).seen_bind (fst_log s _ _), seen_tell]

theorem seen_save (name content : String) : (save name content).seen s =
    if s.files.canSave name then (.ok (), { saved := [(name, content)] })
    else (.error .io, {}) := by
  unfold seen save
  split <;> rfl

end Action

namespace Command

open Arguments (OverrideArguments)

variable {s : Scene}

theorem silent_loadEngine (file : String) (switches : Switches) :
    (loadEngine file switches).Silent s := by
  unfold loadEngine
  refine .bind .scene fun scene => ?_
  split
  · exact .fail _
  · refine .bind (.ofCore _) fun types => .bind (.logAll _) fun _ => .bind (.log _ _) fun _ => ?_
    exact .bind (.ofCore _) fun engine => .bind (.logAll _) fun _ => .pure _

theorem silent_readOverrides (a : OverrideArguments) : (readOverrides a).Silent s := by
  unfold readOverrides
  refine .bind .scene fun scene => ?_
  split
  · exact .ofExcept _
  · exact .bind (.ofExcept _) fun template => .bind (.log _ _) fun _ => .ofExcept _

theorem silent_planOf (engine : Engine) (id : String) (o : Overrides) :
    (planOf engine id o).Silent s := by
  unfold planOf
  exact .bind (.logAll _) fun _ => .bind (.ofCore _) fun _ => .pure _

theorem silent_readInput (file : Option String) : (readInput file).Silent s := by
  unfold readInput
  refine .bind .scene fun scene => ?_
  split
  · exact .pure _
  · split
    · exact .fail _
    · exact .pure _
    · exact .fail _

theorem silent_readRecords (form : Records.Notation) (text : String) :
    (readRecords form text).Silent s := by
  unfold readRecords
  split
  · exact .bind (.log _ _) fun _ => .ofExcept _
  · exact .ofExcept _

end Command

end Reshape
