import RecordStore.Program.Lemmas
import RecordStore.Proofs.Session.Rewriting
import RecordStore.Scan.Basic

/-!
# Steps that only control

A limit says how many records are wanted and a binding without a field keeps the field that is
bound. Neither asks anything of a record: a session stays as it is, so that a connective or a
negation in front of them still reaches its comparison. A program can therefore be evaluated without
them, as long as the limit is kept.

The limit is kept beside the steps. That it is the one that the limit steps set is an invariant of
building, and it holds for every sequence of calls because each of them appends one step or changes
the target alone.
-/

namespace RecordStore

namespace Step

def isLimit (step : Step) : Bool := step.action == .limit

/-- Whether a step is a limit or a binding without a field. -/
def isControl (step : Step) : Bool := step.isLimit || step.action == .bind none

/-- The steps that do more than control. -/
def effective (steps : List Step) : List Step := steps.filter (!·.isControl)

theorem action_of_isControl {step : Step} (h : step.isControl = true) :
    step.action = .limit ∨ step.action = .bind none := by
  rw [isControl, isLimit, Bool.or_eq_true] at h
  exact h.imp eq_of_beq eq_of_beq

end Step

/-! ### Sessions -/

namespace Session

variable {σ : Type} (lookup : Lookup σ) (s : Session)

theorem advance_control {step : Step} (h : step.isControl = true) (state : σ) :
    s.advance lookup step state = (.ok s, state) := by
  have hstep : s.step step = .settled s := by
    rcases Step.action_of_isControl h with haction | haction
    · rw [Session.step, haction]
    · rw [Session.step, haction]
      rfl
  rw [advance, hstep]

theorem replay_effective (steps : List Step) (state : σ) :
    s.replay lookup (Step.effective steps) state = s.replay lookup steps state := by
  induction steps generalizing s state with
  | nil => rfl
  | cons step rest ih =>
    rw [Step.effective, List.filter_cons, ← Step.effective]
    by_cases hcontrol : step.isControl = true
    · rw [if_neg (by simp [hcontrol]), replay, advance_control lookup s hcontrol]
      exact ih s state
    · rw [if_pos (by simp [hcontrol]), replay, replay]
      rcases s.advance lookup step state with ⟨error | next, after⟩
      · rfl
      · exact ih next after

end Session

namespace Program

/-! ### Verdicts -/

/-- The program built anew from the steps that do more than control. -/
def stripped (program : Program) : Program :=
  (Step.effective program.steps).foldl push ⟨program.collection, [], none⟩

theorem steps_stripped (program : Program) :
    program.stripped.steps = Step.effective program.steps := by
  rw [stripped, steps_foldl_push, List.nil_append]

theorem collection_stripped (program : Program) :
    program.stripped.collection = program.collection := by
  rw [stripped, collection_foldl_push]

/-- Programs that differ in control steps alone, wherever they have them, judge every record alike
and look up the same for it. -/
theorem judge_of_effective {σ : Type} {program other : Program}
    (h : Step.effective other.steps = Step.effective program.steps) (lookup : Session.Lookup σ) :
    other.judge lookup = program.judge lookup := by
  funext state
  rw [judge, judge, ← Session.replay_effective, h, Session.replay_effective]

theorem judge_stripped {σ : Type} (program : Program) (lookup : Session.Lookup σ) :
    program.stripped.judge lookup = program.judge lookup := by
  refine judge_of_effective ?_ lookup
  rw [steps_stripped, Step.effective, Step.effective, List.filter_filter]
  simp only [Bool.and_self]

/-! ### Limits -/

/-- The limit that steps set: the last count among the operands of the limits, unless it is zero. -/
def limitOf (steps : List Step) : Option Nat :=
  ((steps.filter Step.isLimit).filterMap
    fun step => step.operand.bind Operand.count?).getLast?.filter (0 < ·)

/-- The cap beside the steps is the one that they set. -/
def Capped (program : Program) : Prop := program.cap = Step.last? capOf program.steps

theorem capOf_eq_ite (step : Step) :
    capOf step = if step.isLimit then step.operand.bind Operand.count? else none := by
  rw [capOf, Step.isLimit]
  cases step.action <;> rfl

theorem Capped.limit_eq {program : Program} (h : program.Capped) :
    program.limit = limitOf program.steps := by
  rw [limit, h, Step.last?_eq_getLast?, limitOf, List.filterMap_filter]
  simp only [← capOf_eq_ite]

inductive Call
  | withCollection (collection : String)
  | push (step : Step)
  | whereField (field : String)
  | whereCurrent
  | connect (connective : Connective) (field : Option String)
  | negate
  | compare (test : Test) (operand : Operand)
  | compareField (field : String) (test : Test) (operand : Operand)
  | isNull
  | isNotNull
  | limitTo (n : Nat)

def Call.apply (program : Program) : Call → Program
  | withCollection collection => program.withCollection collection
  | push step => program.push step
  | whereField field => program.whereField field
  | whereCurrent => program.whereCurrent
  | connect connective field => program.connect connective field
  | negate => program.negate
  | compare test operand => program.compare test operand
  | compareField field test operand => program.compareField field test operand
  | isNull => program.isNull
  | isNotNull => program.isNotNull
  | limitTo n => program.limitTo n

def build (collection : Option String) (calls : List Call) : Program :=
  calls.foldl Call.apply ⟨collection, [], none⟩

theorem Capped.push {program : Program} (h : program.Capped) (step : Step) :
    (program.push step).Capped := by
  rw [Capped, cap_push, steps_push, Step.last?_concat, ← h]

theorem Capped.apply {program : Program} (h : program.Capped) (call : Call) :
    (call.apply program).Capped := by
  cases call with
  | withCollection => exact h
  | push | whereField | whereCurrent | connect | negate | compare | compareField | isNull
  | isNotNull | limitTo => exact h.push _

theorem capped_build (collection : Option String) (calls : List Call) :
    (build collection calls).Capped := by
  -- The calls are applied from the front, so the program so far has to vary.
  have hfold : ∀ program : Program, program.Capped → (calls.foldl Call.apply program).Capped := by
    induction calls with
    | nil => exact fun program h => h
    | cons call rest ih => exact fun program h => ih _ (h.apply call)
  exact hfold ⟨collection, [], none⟩ rfl

/-! ### Queries -/

/-- The limit of a program is what its limit steps set, wherever they stand. Control steps may be
added anywhere and taken away, all or some of them, without a change in the verdict, the failure or
the sequence of lookups. So the results of a program, its failure and the records that it evaluates
are those of the scan without control steps that runs under its limit. -/
theorem controls_limit_only (collection : Option String) (calls : List Call) :
    let program := build collection calls
    program.limit = limitOf program.steps ∧
      (∀ collection' calls',
        let other := build collection' calls'
        other.steps.filter Step.isLimit = program.steps.filter Step.isLimit →
          other.limit = program.limit) ∧
      (∀ {σ : Type} (lookup : Session.Lookup σ) (state : σ),
        program.stripped.judge lookup.noted (state, []) = program.judge lookup.noted (state, []) ∧
          ∀ other : Program, Step.effective other.steps = Step.effective program.steps →
            other.judge lookup.noted (state, []) = program.judge lookup.noted (state, [])) ∧
      ∀ {σ ρ : Type} [Reports σ] (lookup : ρ → Session.Lookup σ) (records : List ρ) (state : σ),
        program.execute lookup records state =
          (program.stripped.scan program.limit).overList
            (fun record => program.stripped.judge (lookup record)) {} records state := by
  intro program
  have hlimit : program.limit = limitOf program.steps := (capped_build collection calls).limit_eq
  refine ⟨hlimit, ?_, ?_, ?_⟩
  · intro collection' calls' other hsame
    rw [hlimit, (capped_build collection' calls').limit_eq, limitOf, limitOf, hsame]
  · intro σ lookup state
    refine ⟨by rw [judge_stripped], fun other heffective => ?_⟩
    rw [judge_of_effective heffective]
  · intro σ ρ _ lookup records state
    simp only [execute, scan, collection_stripped, judge_stripped]

/-- Between a disjunction and its comparison stand a limit without a count, a negation, a binding
without a field and a limit of one. The negation and the last limit still count. -/
theorem controls_limit_only_before_comparison :
    let done : Call := .compare .eq (.bool true)
    let program := build (some "tasks")
      [.whereField "done", done, .connect .or none, .push ⟨.limit, some (.string "two")⟩, .negate,
        .whereCurrent, .limitTo 1, done]
    let records : List Value := [.bool false, .bool true, .string "late"]
    let lookup : Value → Session.Lookup (Array Event) := fun value _ events => (.ok value, events)
    program.limit = some 1 ∧ program.stripped.steps.length = 5 ∧
      program.execute lookup records #[] =
        (.ok [.bool false], #[.evaluated "tasks" 0 true, .completed "tasks" 1 1 (some 1)]) := by
  intro done program records lookup
  obtain ⟨hlimit, -, -, hexecute⟩ := controls_limit_only (some "tasks")
    [.whereField "done", done, .connect .or none, .push ⟨.limit, some (.string "two")⟩, .negate,
      .whereCurrent, .limitTo 1, done]
  refine ⟨hlimit.trans ?_, rfl, (hexecute lookup records #[]).trans ?_⟩
  · rfl
  · rfl

end Program

end RecordStore
