import RecordStore.Proofs.Session.Course

/-!
# What skipped comparisons leave unseen

A run looks nothing up for a comparison that it skips, and does not look at the comparison either. So
another comparison may stand in its place, and the record may be another one in all fields that the
run has not asked for: the run stays the same, session by session, with the same lookups and the same
end. Which comparisons are skipped depends on the answers that came before, which is why the programs
are compared along one run and not as such.
-/

namespace RecordStore

variable {σ : Type}

namespace Session

/-- Two programs differ at most in comparisons, namely in those that the visits of a run of the first
show as skipped. -/
structure VariesWhereSkipped (visits : List (Step × Session)) (steps varied : List Step) : Prop where
  length_eq : varied.length = steps.length
  same_or_skipped : ∀ (i : Nat) (step other : Step), steps[i]? = some step → varied[i]? = some other →
    other = step ∨
      (step.command.isComparison = true ∧ other.command.isComparison = true ∧
        ∃ s, visits[i]? = some (step, s) ∧ s.skip = true)

namespace VariesWhereSkipped

variable {visits : List (Step × Session)} {s : Session} {step other : Step}
  {rest later : List Step}

theorem head (h : VariesWhereSkipped ((step, s) :: visits) (step :: rest) (other :: later)) :
    other = step ∨
      (step.command.isComparison = true ∧ other.command.isComparison = true ∧ s.skip = true) := by
  rcases h.same_or_skipped 0 step other rfl rfl with heq | ⟨hstep, hother, found, hvisit, hskip⟩
  · exact .inl heq
  · cases hvisit
    exact .inr ⟨hstep, hother, hskip⟩

theorem tail (h : VariesWhereSkipped ((step, s) :: visits) (step :: rest) (other :: later)) :
    VariesWhereSkipped visits rest later :=
  ⟨Nat.succ.inj h.length_eq, fun i => h.same_or_skipped (i + 1)⟩

end VariesWhereSkipped

/-! ### Steps -/

/-- A comparison that is skipped uses up the skip and the negation, whatever it compares. -/
theorem advance_of_skip (lookup : Lookup σ) {s : Session} (hskip : s.skip = true) {step : Step}
    (hstep : step.command.isComparison = true) (state : σ) :
    s.advance lookup step state = (.ok { s with skip := false, negate := false }, state) := by
  obtain ⟨test, named, haction⟩ := step.isComparison_iff.1 hstep
  rw [advance, Session.step, haction]
  simp only [compare, hskip, if_true]

theorem advance_congr {lookup other : Lookup σ} {s : Session} {step : Step} {state : σ}
    {names : List String}
    (h : ∀ name ∈ (s.advance lookup.noted step (state, names)).2.2, other name = lookup name) :
    s.advance other.noted step (state, names) = s.advance lookup.noted step (state, names) := by
  rw [advance] at h
  rw [advance, advance]
  split
  · rfl
  · rfl
  · rename_i question inverts hasks
    simp only [hasks, Lookup.noted] at h
    have hname := h question.field (List.mem_append_right names List.mem_cons_self)
    simp only [Lookup.noted, hname]

/-! ### Names that are noted stay noted -/

theorem subset_advance_noted (lookup : Lookup σ) (s : Session) (step : Step) (state : σ)
    (names : List String) : names ⊆ (s.advance lookup.noted step (state, names)).2.2 := by
  rw [advance]
  split
  · exact List.Subset.refl names
  · exact List.Subset.refl names
  · exact List.subset_append_left names _

theorem subset_trail_noted (lookup : Lookup σ) (s : Session) (steps : List Step)
    (state : σ × List String) : state.2 ⊆ (s.trail lookup.noted steps state).state.2 := by
  induction steps generalizing s state with
  | nil => exact List.Subset.refl _
  | cons step rest ih =>
    have hstep := subset_advance_noted lookup s step state.1 state.2
    rcases hadvance : s.advance lookup.noted step state with ⟨error | next, after⟩
    · rw [hadvance] at hstep
      rwa [trail_cons_error hadvance]
    · rw [hadvance] at hstep
      rw [trail_cons_ok hadvance]
      exact List.Subset.trans hstep (ih next after)

/-! ### Runs -/

/-- From any session on, a run that differs only where the other one skips, and whose lookups agree
on what the other one looks up, is the same run. -/
theorem trail_of_variesWhereSkipped {lookup other : Lookup σ} {s : Session}
    {steps varied : List Step} {state : σ × List String}
    (hvaried : VariesWhereSkipped ((s.trail lookup.noted steps state).visits s steps) steps varied)
    (hagree : ∀ name ∈ (s.trail lookup.noted steps state).state.2, other name = lookup name) :
    s.trail other.noted varied state = s.trail lookup.noted steps state := by
  induction steps generalizing s varied state with
  | nil =>
    rw [List.length_eq_zero_iff.1 hvaried.length_eq]
    rfl
  | cons step rest ih =>
    cases varied with
    | nil => cases hvaried.length_eq
    | cons replaced later =>
      rcases hadvance : s.advance lookup.noted step state with ⟨error | next, after⟩
      · rw [trail_cons_error hadvance] at hvaried hagree ⊢
        rcases hvaried.head with rfl | ⟨hstep, -, hskip⟩
        · have hsame : s.advance other.noted replaced state = _ :=
            advance_congr (by rwa [hadvance])
          rw [hadvance] at hsame
          exact trail_cons_error hsame
        · -- A skipped comparison does not fail.
          rw [advance_of_skip _ hskip hstep] at hadvance
          cases hadvance
      · rw [trail_cons_ok hadvance] at hvaried hagree ⊢
        -- What this step looks up is still noted at the end of the run.
        have hlater := subset_trail_noted lookup next rest after
        have hreplaced : s.advance other.noted replaced state = (.ok next, after) := by
          rcases hvaried.head with rfl | ⟨hstep, hother, hskip⟩
          · have hsame : s.advance other.noted replaced state = _ :=
              advance_congr fun name hmem => hagree name (hlater (by rwa [hadvance] at hmem))
            rwa [hadvance] at hsame
          · rw [advance_of_skip _ hskip hstep] at hadvance
            rw [advance_of_skip _ hskip hother, hadvance]
        rw [trail_cons_ok hreplaced, ih hvaried.tail hagree]

end Session

namespace Program

theorem judge_eq_outcome (program : Program) (lookup : Session.Lookup σ) (state : σ) :
    let run := Session.trail lookup {} program.steps state
    program.judge lookup state = ((run.outcome {}).map Session.verdict, run.state) := by
  rw [judge, Session.replay_eq_outcome]

/-- Neither a skipped comparison nor a field that is not looked up can be observed: with any other
comparisons in place of the skipped ones, and with any other lookup that gives the same for the names
looked up, a run passes through the same sessions, looks up the same names in the same order, and
comes to the same verdict or the same failure. -/
theorem trail_eq_of_variesWhereSkipped {program varied : Program} {lookup other : Session.Lookup σ}
    {state : σ} :
    let run := Session.trail lookup.noted {} program.steps (state, [])
    Session.VariesWhereSkipped (run.visits {} program.steps) program.steps varied.steps →
      (∀ name ∈ run.state.2, other name = lookup name) →
      Session.trail other.noted {} varied.steps (state, []) = run ∧
        varied.judge other.noted (state, []) = program.judge lookup.noted (state, []) := by
  intro run hvaried hagree
  have hrun : Session.trail other.noted {} varied.steps (state, []) = run :=
    Session.trail_of_variesWhereSkipped hvaried hagree
  refine ⟨hrun, ?_⟩
  rw [judge_eq_outcome, judge_eq_outcome, hrun]

/-- The skipped comparison is on a field that the first record lacks, and gives way to one without an
operand. -/
theorem trail_eq_of_variesWhereSkipped_tall :
    let asked := ((on "tasks").whereField "done").compare .eq (.bool true)
    let skipping := (asked.connect .and).negate.compareField "height" .gt (.char 'm')
    let program := (skipping.connect .or).compare .eq (.bool false)
    let varied := { program with steps := program.steps.set 4 ⟨.compare .like none, none⟩ }
    let short : Session.Lookup Unit := Fields.lookup fun name =>
      if name = "done" then .ok (.bool false) else .error (.fieldNotFound "Task" name)
    let tall : Session.Lookup Unit := Fields.lookup fun name =>
      .ok (if name = "done" then .bool false else .char 'z')
    let run := Session.trail short.noted {} program.steps ((), [])
    Session.VariesWhereSkipped (run.visits {} program.steps) program.steps varied.steps ∧
      (∀ name ∈ run.state.2, tall name = short name) ∧
      program.judge short.noted ((), []) = (.ok true, (), ["done", "done"]) ∧
      varied.judge tall.noted ((), []) = (.ok true, (), ["done", "done"]) := by
  intro asked skipping program varied short tall run
  have hvaried : Session.VariesWhereSkipped (run.visits {} program.steps) program.steps
      varied.steps := by
    refine ⟨List.length_set, fun i step other hstep hother => ?_⟩
    by_cases hi : i = 4
    · subst hi
      cases hstep
      cases hother
      exact .inr ⟨rfl, rfl, _, rfl, rfl⟩
    · have hkept : varied.steps[i]? = program.steps[i]? := List.getElem?_set_ne (Ne.symm hi)
      rw [hkept, hstep] at hother
      cases hother
      exact .inl rfl
  have hagree : ∀ name ∈ run.state.2, tall name = short name := by
    have hnames : run.state.2 = ["done", "done"] := rfl
    intro name hmem
    rw [hnames] at hmem
    obtain rfl : name = "done" := by simpa using hmem
    rfl
  exact ⟨hvaried, hagree, rfl, (trail_eq_of_variesWhereSkipped hvaried hagree).2⟩

end Program

end RecordStore
