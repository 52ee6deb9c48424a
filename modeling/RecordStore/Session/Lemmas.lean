import RecordStore.Session.Basic

/-!
# Replaying steps

A replay can be cut anywhere: what the first steps leave is all that the others need. And as far as
the outcome is concerned, the state around a session does not matter when the lookups answer from
fixed fields, whatever they note or change on the side.
-/

namespace RecordStore

namespace Session

variable {σ : Type}

/-- A replay of two lists of steps goes on with the second where the first ends, unless it fails. -/
theorem replay_append (lookup : Lookup σ) (s : Session) (first second : List Step) (state : σ) :
    s.replay lookup (first ++ second) state =
      match s.replay lookup first state with
      | (.ok next, state) => next.replay lookup second state
      | (.error error, state) => (.error error, state) := by
  induction first generalizing s state with
  | nil => rfl
  | cons step rest ih =>
    rw [List.cons_append, replay, replay]
    split
    · exact ih _ _
    · rfl

theorem advance_answer {lookup : Lookup σ} {fields : Fields}
    (h : ∀ name state, (lookup name state).1 = fields name) (s : Session) (step : Step)
    (state : σ) :
    (s.advance lookup step state).1 = (s.advance fields.lookup step ()).1 := by
  rw [advance, advance]
  split
  · rfl
  · rfl
  · simp only [h, Fields.lookup]

/-- The outcome of a replay depends on the answers of the lookups alone. -/
theorem replay_answer {lookup : Lookup σ} {fields : Fields}
    (h : ∀ name state, (lookup name state).1 = fields name) (s : Session) (steps : List Step)
    (state : σ) :
    (s.replay lookup steps state).1 = (s.replay fields.lookup steps ()).1 := by
  induction steps generalizing s state with
  | nil => rfl
  | cons step rest ih =>
    have hstep := advance_answer h s step state
    rw [replay, replay]
    rcases hleft : s.advance lookup step state with ⟨outcome, after⟩
    rcases hright : s.advance fields.lookup step () with ⟨other, rest⟩
    rw [hleft, hright] at hstep
    cases hstep
    cases outcome with
    | ok next => exact ih next after
    | error e => rfl

end Session

namespace Program

theorem judge_answer {σ : Type} {lookup : Session.Lookup σ} {fields : Fields}
    (h : ∀ name state, (lookup name state).1 = fields name) (program : Program) (state : σ) :
    (program.judge lookup state).1 = program.verdict fields := by
  rw [judge, verdict, judge]
  exact congrArg (Except.map Session.verdict) (Session.replay_answer h {} program.steps state)

end Program

end RecordStore
