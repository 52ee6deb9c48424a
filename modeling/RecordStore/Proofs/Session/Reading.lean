import RecordStore.Proofs.Session.Segment

/-!
# Programs read segment by segment

A session takes steps one at a time and remembers four things between them. Here the same program is
read segment by segment, and only the verdict is carried along: whether a comparison runs, whether it
is turned around and of which field it speaks all stand in the program. Both readings come to the
same verdict or the same failure, whatever the lookups answer and whatever they change, and look up
the same fields in the same order.

The link between them is `sessionAfter`, the session that the verdict and the steps so far determine.
Every step keeps a session in that form.
-/

namespace RecordStore

variable {σ : Type}

/-- A lookup that also notes every name that is looked up. -/
def Session.Lookup.noted (lookup : Session.Lookup σ) : Session.Lookup (σ × List String) :=
  fun name state =>
    let found := lookup name state.1
    (found.1, found.2, state.2 ++ [name])

namespace Segment

/-- What reading segments comes to: the verdict or a failure, the segments whose comparison ran, and
the state at the end. -/
structure Reading (σ : Type) where
  outcome : Except EvalError Bool
  executed : List Segment
  state : σ

/-- The verdict of a segment whose comparison runs. -/
def settle (lookup : Session.Lookup σ) (segment : Segment) (state : σ) :
    Except EvalError Bool × σ :=
  let command := segment.comparison.command
  match segment.field, segment.operand with
  | none, _ => (.error (.noFieldBound command), state)
  | some field, none => (.error (.missingOperand command field), state)
  | some field, some operand =>
    let found := lookup field state
    let answer := found.1.bind (Question.answer ⟨field, operand, segment.test.mode⟩)
    (answer.map fun fulfilled => (fulfilled ^^ segment.negated) ^^ segment.test.inverts, found.2)

/-- Reads segments in turn, up to the first whose comparison fails. -/
def read (lookup : Session.Lookup σ) (verdict : Bool) : List Segment → σ → Reading σ
  | [], state => ⟨.ok verdict, [], state⟩
  | segment :: rest, state =>
    if segment.skipped verdict then read lookup verdict rest state
    else
      match segment.settle lookup state with
      | (.ok next, state) =>
        let later := read lookup next rest state
        { later with executed := segment :: later.executed }
      | (.error error, state) => ⟨.error error, [segment], state⟩

/-- The outcome of a reading has whatever every verdict has and each of the segments gives its own. -/
theorem outcome_read (holds : Except EvalError Bool → Prop) (hok : ∀ verdict, holds (.ok verdict))
    {lookup : Session.Lookup σ} {segments : List Segment}
    (h : ∀ segment ∈ segments, ∀ state, holds (segment.settle lookup state).1)
    (verdict : Bool) (state : σ) : holds (read lookup verdict segments state).outcome := by
  induction segments generalizing verdict state with
  | nil => exact hok verdict
  | cons segment rest ih =>
    obtain ⟨hsegment, hrest⟩ := List.forall_mem_cons.1 h
    rw [read]
    split
    · exact ih hrest verdict state
    · have hsettled := hsegment state
      rcases hsettle : segment.settle lookup state with ⟨failure | next, after⟩
      · rwa [hsettle] at hsettled
      · exact ih hrest next after

/-! ### What is looked up -/

theorem settle_noted (lookup : Session.Lookup σ) (segment : Segment) (state : σ)
    (names : List String) :
    segment.settle lookup.noted (state, names) =
      ((segment.settle lookup state).1, (segment.settle lookup state).2,
        names ++ segment.lookedUp?.toList) := by
  rw [settle, settle, lookedUp?]
  cases segment.field with
  | none => cases segment.operand <;> simp
  | some field =>
    cases segment.operand with
    | none => simp
    | some operand => rfl

theorem read_noted (lookup : Session.Lookup σ) (verdict : Bool) (segments : List Segment)
    (state : σ) (names : List String) :
    let reading := read lookup verdict segments state
    read lookup.noted verdict segments (state, names) =
      ⟨reading.outcome, reading.executed,
        reading.state, names ++ reading.executed.filterMap lookedUp?⟩ := by
  induction segments generalizing verdict state names with
  | nil => simp [read]
  | cons segment rest ih =>
    simp only [read, settle_noted]
    split
    · exact ih verdict state names
    · cases hsettle : segment.settle lookup state with
      | mk outcome after =>
        cases outcome with
        | ok next =>
          have hrest := ih next after (names ++ segment.lookedUp?.toList)
          simp only at hrest
          simp only [hrest, List.append_assoc]
          cases hlooked : segment.lookedUp? with
          | none => simp [hlooked]
          | some name => simp [hlooked]
        | error error =>
          cases hlooked : segment.lookedUp? with
          | none => simp [hlooked]
          | some name => simp [hlooked]

end Segment

namespace Session

/-- The session that the verdict so far and the steps of the program so far determine: those up to
the last comparison, and those after it. -/
def sessionAfter (verdict : Bool) (before lead : List Step) : Session where
  verdict := verdict
  skip := (Step.last? Step.connective? lead).any (·.settledBy verdict)
  negate := lead.any Step.negates
  field := Step.last? Step.bound? (before ++ lead)

theorem step_sessionAfter (verdict : Bool) (before lead : List Step) {step : Step}
    (hplain : ∀ test named, step.action ≠ .compare test named) :
    (sessionAfter verdict before lead).step step =
      .settled (sessionAfter verdict before (lead ++ [step])) := by
  have hfield : Step.last? Step.bound? (before ++ (lead ++ [step])) =
      step.bound?.or (Step.last? Step.bound? (before ++ lead)) := by
    rw [← List.append_assoc, Step.last?_concat]
  rw [Session.step, sessionAfter, sessionAfter, hfield]
  cases haction : step.action with
  | connect connective field =>
    simp [Step.bound?, Step.connective?, Step.negates, haction]
  | negate => simp [Step.bound?, Step.connective?, Step.negates, haction]
  | bind field => simp [Step.bound?, Step.connective?, Step.negates, haction]
  | limit => simp [Step.bound?, Step.connective?, Step.negates, haction]
  | compare test named => exact absurd haction (hplain test named)

/-- A comparison starts a new segment, whether it is skipped or gives a new verdict. -/
theorem sessionAfter_concat_compare (verdict : Bool) (before lead : List Step) {step : Step}
    {test : Test} {named : Option String} (haction : step.action = .compare test named) :
    sessionAfter verdict (before ++ lead ++ [step]) [] =
      ⟨verdict, false, false, Step.last? Step.bound? (before ++ lead)⟩ := by
  rw [sessionAfter, List.append_nil, Step.last?_concat, Step.bound?, haction]
  rfl

theorem skip_sessionAfter (verdict : Bool) (segment : Segment) :
    (sessionAfter verdict segment.before segment.lead).skip = segment.skipped verdict := by
  rw [sessionAfter, Segment.skipped]
  cases Step.last? Step.connective? segment.lead with
  | none => rfl
  | some connective => cases connective <;> rfl

theorem advance_sessionAfter (lookup : Lookup σ) (verdict : Bool) (before lead : List Step)
    {step : Step} {test : Test} {named : Option String}
    (haction : step.action = .compare test named) (state : σ) :
    let segment : Segment := ⟨before, lead, test, named, step.operand⟩
    let start := fun next => sessionAfter next (before ++ lead ++ [step]) []
    (sessionAfter verdict before lead).advance lookup step state =
      if segment.skipped verdict then (.ok (start verdict), state)
      else ((segment.settle lookup state).1.map start, (segment.settle lookup state).2) := by
  intro segment start
  have hstart : start =
      fun next => ⟨next, false, false, Step.last? Step.bound? (before ++ lead)⟩ :=
    funext fun next => sessionAfter_concat_compare next before lead haction
  have hstep : (sessionAfter verdict before lead).step step =
      (sessionAfter verdict before lead).compare test named step.operand := by
    rw [Session.step, haction]
  have hfield : named.or (sessionAfter verdict before lead).field = segment.field := rfl
  have hskip : (sessionAfter verdict before lead).skip = segment.skipped verdict :=
    skip_sessionAfter verdict segment
  rw [advance, hstep, compare, hfield, hskip, hstart]
  by_cases hskipped : segment.skipped verdict = true
  · rw [if_pos hskipped, if_pos hskipped]
    rfl
  · have hanswered : (sessionAfter verdict before lead).answered test.inverts =
        fun fulfilled => ⟨(fulfilled ^^ segment.negated) ^^ test.inverts, false, false,
          Step.last? Step.bound? (before ++ lead)⟩ := by
      funext fulfilled
      rw [answered, hskip, eq_false_of_ne_true hskipped]
      rfl
    have hoperand : segment.operand = step.operand := rfl
    rw [if_neg hskipped, if_neg hskipped, Segment.settle, hoperand]
    cases segment.field with
    | none => rfl
    | some field =>
      cases step.operand with
      | none => rfl
      | some operand =>
        simp only [hanswered]
        cases (lookup field state).1.bind (Question.answer ⟨field, operand, test.mode⟩) with
        | ok fulfilled => rfl
        | error error => rfl

/-- Replaying the steps of a program from any place on is reading the segments from there on. -/
theorem replay_sessionAfter (lookup : Lookup σ) (verdict : Bool) (before lead steps : List Step)
    (state : σ) :
    let last := (sessionAfter verdict before lead).replay lookup steps state
    let reading := Segment.read lookup verdict (Segment.cutFrom before lead steps) state
    (last.1.map Session.verdict, last.2) = (reading.outcome, reading.state) := by
  induction steps generalizing verdict before lead state with
  | nil => rfl
  | cons step rest ih =>
    rw [Segment.cutFrom]
    split
    · rename_i test named haction
      rw [replay, advance_sessionAfter lookup verdict before lead haction, Segment.read]
      by_cases hskipped : Segment.skipped ⟨before, lead, test, named, step.operand⟩ verdict = true
      · rw [if_pos hskipped, if_pos hskipped]
        exact ih verdict _ [] state
      · rw [if_neg hskipped, if_neg hskipped]
        rcases Segment.settle lookup _ state with ⟨outcome, after⟩
        cases outcome with
        | ok next => exact ih next _ [] after
        | error error => rfl
    · rename_i hplain
      rw [replay, advance, step_sessionAfter verdict before lead hplain]
      exact ih verdict before (lead ++ [step]) state

end Session

theorem Program.judge_eq_read (program : Program) (lookup : Session.Lookup σ) (state : σ) :
    let reading := Segment.read lookup false (Segment.cut program.steps) state
    program.judge lookup state = (reading.outcome, reading.state) :=
  Session.replay_sessionAfter lookup false [] [] program.steps state

/-- The verdict of a program is that of its segments read one after the other, and so is its
failure. Noting the names that are looked up changes nothing, and the names are the fields of the
comparisons that run. -/
theorem Program.judge_eq_read_cut (program : Program) (lookup : Session.Lookup σ) (state : σ) :
    let segments := Segment.cut program.steps
    let reading := Segment.read lookup false segments state
    (∃ rest, Segment.IsCut [] program.steps segments rest) ∧
      program.judge lookup state = (reading.outcome, reading.state) ∧
      program.judge lookup.noted (state, []) =
        (reading.outcome, reading.state, reading.executed.filterMap Segment.lookedUp?) := by
  intro segments reading
  refine ⟨Segment.isCut_cut program.steps, ?_, ?_⟩
  · exact Session.replay_sessionAfter lookup false [] [] program.steps state
  · have hnoted := Session.replay_sessionAfter lookup.noted false [] [] program.steps (state, [])
    have hread : Segment.read lookup.noted false segments (state, []) = _ :=
      Segment.read_noted lookup false segments state []
    refine Eq.trans hnoted ?_
    rw [← Segment.cut, hread, List.nil_append]

end RecordStore
