import RecordStore.Proofs.Session.Reading

/-!
# The course of a run

A replay passes through one session after another, and every step finds the session that the steps
in front of it have left. So the trail of a replay shows which steps it came to, which of the
comparisons among them it skipped, and how it ended. A failure is the end: no step behind it is come
to, and the comparison that failed is the last of the course. Reading the program segment by segment
comes to the same comparisons and skips the same ones.
-/

namespace RecordStore

variable {σ : Type}

namespace Session

namespace Trail

/-- The steps that the run came to, each with the session that it found. -/
def visits (trail : Trail σ) (start : Session) (steps : List Step) : List (Step × Session) :=
  steps.zip (start :: trail.sessions)

/-- The comparisons that the run came to, each with whether it was skipped. -/
def course (trail : Trail σ) (start : Session) (steps : List Step) : List (Step × Bool) :=
  (trail.visits start steps).filterMap fun visit =>
    if visit.1.command.isComparison then some (visit.1, visit.2.skip) else none

def outcome (trail : Trail σ) (start : Session) : Except EvalError Session :=
  match trail.failure with
  | none => .ok (trail.sessions.getLastD start)
  | some error => .error error

end Trail

variable {lookup : Lookup σ} {s next : Session} {step : Step} {rest : List Step} {state after : σ}
  {error : EvalError}

theorem trail_cons_ok (h : s.advance lookup step state = (.ok next, after)) :
    s.trail lookup (step :: rest) state =
      { next.trail lookup rest after with
        sessions := next :: (next.trail lookup rest after).sessions } := by
  rw [trail, h]

theorem trail_cons_error (h : s.advance lookup step state = (.error error, after)) :
    s.trail lookup (step :: rest) state = ⟨[], some error, after⟩ := by
  rw [trail, h]

theorem replay_eq_outcome (lookup : Lookup σ) (s : Session) (steps : List Step) (state : σ) :
    let trail := s.trail lookup steps state
    s.replay lookup steps state = (trail.outcome s, trail.state) := by
  induction steps generalizing s state with
  | nil => rfl
  | cons step rest ih =>
    intro trail
    rcases hstep : s.advance lookup step state with ⟨error | next, after⟩
    · simp only [trail, trail_cons_error hstep, replay, hstep, Trail.outcome]
    · simp only [trail, trail_cons_ok hstep, replay, hstep, ih, Trail.outcome,
        List.getLastD_cons]

/-! ### One step of the course -/

theorem course_cons_ok (h : s.advance lookup step state = (.ok next, after)) :
    (s.trail lookup (step :: rest) state).course s (step :: rest) =
      (if step.command.isComparison then [(step, s.skip)] else []) ++
        (next.trail lookup rest after).course next rest := by
  rw [trail_cons_ok h, Trail.course, Trail.course, Trail.visits, Trail.visits,
    List.zip_cons_cons, List.filterMap_cons]
  cases step.command.isComparison with
  | true => rfl
  | false => rfl

theorem course_cons_error (h : s.advance lookup step state = (.error error, after)) :
    (s.trail lookup (step :: rest) state).course s (step :: rest) =
      if step.command.isComparison then [(step, s.skip)] else [] := by
  rw [trail_cons_error h, Trail.course, Trail.visits, List.zip_cons_cons, List.zip_nil_right,
    List.filterMap_cons]
  cases step.command.isComparison with
  | true => rfl
  | false => rfl

end Session

/-! ### The course of a reading -/

/-- The comparisons that a reading comes to, each with whether it is skipped. -/
def Segment.course (lookup : Session.Lookup σ) (verdict : Bool) :
    List Segment → σ → List (Step × Bool)
  | [], _ => []
  | segment :: rest, state =>
    (segment.comparison, segment.skipped verdict) ::
      if segment.skipped verdict then course lookup verdict rest state
      else
        match segment.settle lookup state with
        | (.ok next, state) => course lookup next rest state
        | (.error _, _) => []

namespace Session

theorem course_sessionAfter (lookup : Lookup σ) (verdict : Bool) (before lead steps : List Step)
    (state : σ) :
    let start := sessionAfter verdict before lead
    (start.trail lookup steps state).course start steps =
      Segment.course lookup verdict (Segment.cutFrom before lead steps) state := by
  intro start
  induction steps generalizing verdict before lead state with
  | nil => rfl
  | cons step rest ih =>
    rw [Segment.cutFrom]
    split
    · rename_i test named haction
      have hcomparison : step.command.isComparison = true :=
        step.isComparison_iff.2 ⟨test, named, haction⟩
      have hstep : step = ⟨.compare test named, step.operand⟩ := by rw [← haction]
      have hadvance := advance_sessionAfter lookup verdict before lead haction state
      have hskip := skip_sessionAfter verdict ⟨before, lead, test, named, step.operand⟩
      rw [Segment.course, Segment.comparison, ← hstep, ← hskip]
      simp only [← hskip] at hadvance
      by_cases hskipped : start.skip = true
      · rw [if_pos hskipped] at hadvance
        rw [course_cons_ok hadvance, if_pos hcomparison, if_pos hskipped, ih]
        rfl
      · rw [if_neg hskipped] at hadvance
        rw [if_neg hskipped]
        rcases hsettle : Segment.settle lookup ⟨before, lead, test, named, step.operand⟩ state with
          ⟨error | next, after⟩
        · rw [hsettle] at hadvance
          rw [course_cons_error hadvance, if_pos hcomparison]
        · rw [hsettle] at hadvance
          rw [course_cons_ok hadvance, if_pos hcomparison, ih]
          rfl
    · rename_i hplain
      have hcomparison : ¬ step.command.isComparison = true := by
        intro hcompare
        obtain ⟨test, named, haction⟩ := step.isComparison_iff.1 hcompare
        exact hplain test named haction
      have hadvance : start.advance lookup step state =
          (.ok (sessionAfter verdict before (lead ++ [step])), state) := by
        rw [advance, step_sessionAfter verdict before lead hplain]
      rw [course_cons_ok hadvance, if_neg hcomparison, ih]
      rfl

end Session

namespace Program

/-- The comparisons that the evaluation of a record comes to, each with whether it is skipped. -/
def course (program : Program) (lookup : Session.Lookup σ) (state : σ) : List (Step × Bool) :=
  (Session.trail lookup {} program.steps state).course {} program.steps

theorem course_eq_course_cut (program : Program) (lookup : Session.Lookup σ) (state : σ) :
    program.course lookup state = Segment.course lookup false (Segment.cut program.steps) state :=
  Session.course_sessionAfter lookup false [] [] program.steps state

end Program

end RecordStore
