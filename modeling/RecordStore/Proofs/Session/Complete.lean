import RecordStore.Proofs.Session.Answer
import RecordStore.Proofs.Session.NormalForm

/-!
# What a complete program fails with

A comparison that has its field and its operand can still fail for two reasons: the field may not be
found, and the kinds of its value and of the operand may not fit. In a complete program all of them have
both, so whichever run, no other failure comes up. A program is complete in any case when each of its
comparisons names its field itself.
-/

namespace RecordStore

variable {σ : Type}

/-- The failures that are not the program's own: those of a lookup, and mismatches of kinds. -/
def Session.Lookup.AccountsFor (lookup : Session.Lookup σ) (error : EvalError) : Prop :=
  (∃ field state, (lookup field state).1 = .error error) ∨
    ∃ field mode expected actual, error = .typeMismatch field mode expected actual

variable {lookup : Session.Lookup σ} {state : σ} {error : EvalError}

namespace Segment

theorem settle_error {segment : Segment} (h : segment.isComplete = true)
    (herror : (segment.settle lookup state).1 = .error error) : lookup.AccountsFor error := by
  obtain ⟨hfield, hoperand⟩ := Bool.and_eq_true_iff.1 h
  obtain ⟨field, hfield⟩ := Option.isSome_iff_exists.1 hfield
  obtain ⟨operand, hoperand⟩ := Option.isSome_iff_exists.1 hoperand
  simp only [settle, hfield, hoperand] at herror
  rcases hfound : (lookup field state).1 with failure | v
  · rw [hfound] at herror
    cases herror
    exact .inl ⟨field, state, hfound⟩
  · rw [hfound, Except.bind] at herror
    rcases hanswer : Question.answer ⟨field, operand, segment.test.mode⟩ v with failure | fulfilled
    · rw [hanswer] at herror
      cases herror
      exact .inr ⟨_, _, _, _, (Question.answer_eq_error_iff.1 hanswer).2⟩
    · rw [hanswer] at herror
      cases herror

theorem comparison_mem {steps : List Step} {segment : Segment} (h : segment ∈ cut steps) :
    segment.comparison ∈ steps := by
  obtain ⟨rest, hcut⟩ := isCut_cut steps
  rw [hcut.whole]
  apply List.mem_append_left
  exact List.mem_flatMap.2 ⟨segment, h, List.mem_append_right _ List.mem_cons_self⟩

end Segment

namespace Program

theorem judge_error {program : Program} (h : program.isComplete = true)
    (herror : (program.judge lookup state).1 = .error error) : lookup.AccountsFor error := by
  have hread : ∀ failure,
      (Segment.read lookup false (Segment.cut program.steps) state).outcome = .error failure →
        lookup.AccountsFor failure := by
    apply Segment.outcome_read fun outcome => ∀ failure, outcome = .error failure →
      lookup.AccountsFor failure
    · exact fun _ => nofun
    · intro segment hmem state failure
      exact Segment.settle_error (List.all_eq_true.1 h segment hmem)
  rw [program.judge_eq_read lookup state] at herror
  exact hread error herror

theorem isComplete_of_named {program : Program}
    (h : ∀ step ∈ program.steps, ∀ test named, step.action = .compare test named →
      named.isSome = true ∧ step.operand.isSome = true) : program.isComplete = true := by
  apply List.all_eq_true.2
  intro segment hmem
  obtain ⟨hnamed, hoperand⟩ := h segment.comparison (Segment.comparison_mem hmem) _ _ rfl
  rw [Segment.isComplete, Segment.field, Option.or_of_isSome hnamed]
  exact Bool.and_eq_true_iff.2 ⟨hnamed, hoperand⟩

end Program

end RecordStore
