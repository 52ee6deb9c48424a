import RecordStore.Program.Rendering
import RecordStore.Proofs.Value.Sameness
import RecordStore.Scan.Basic

/-!
# Programs that are the same

Programs are the same when their targets, their caps and their steps are, and steps when they do the
same with operands that are the same. Such programs may be written differently, as numbers show their
representation there. Their sessions, however, agree step by step, and so no query tells them apart.
-/

namespace RecordStore

variable {σ ρ : Type}

theorem Question.answer_eq_of_same (field : String) {a b : Operand} (h : a.same b = true)
    (mode : Mode) : answer ⟨field, a, mode⟩ = answer ⟨field, b, mode⟩ := by
  funext value
  simp only [answer_eq_test?, value.test?_eq_of_same h mode, Value.mismatch,
    Operand.kind_eq_of_same h]

namespace Session

theorem advance_eq_of_same {a b : Step} (h : a.same b = true) (lookup : Lookup σ) (s : Session)
    (state : σ) : s.advance lookup a state = s.advance lookup b state := by
  obtain ⟨action, operand⟩ := a
  obtain ⟨action', operand'⟩ := b
  obtain ⟨haction, hoperand⟩ := Bool.and_eq_true_iff.1 h
  obtain rfl : action = action' := eq_of_beq haction
  match operand, operand', hoperand with
  | none, none, _ => rfl
  | some x, some y, hsame =>
    cases action with
    | connect | negate | bind | limit => rfl
    | compare test named =>
      simp only [advance, Session.step, Session.compare]
      cases s.skip with
      | true => rfl
      | false =>
        cases named.or s.field with
        | none => rfl
        | some field =>
          have hanswer := Question.answer_eq_of_same field hsame test.mode
          simp only [Bool.false_eq_true, if_false, hanswer]

theorem replay_eq_of_sameSteps {steps others : List Step}
    (h : Program.sameSteps steps others = true) (lookup : Lookup σ) (s : Session) (state : σ) :
    s.replay lookup steps state = s.replay lookup others state := by
  induction steps generalizing others s state with
  | nil =>
    cases others with
    | nil => rfl
    | cons other others => cases h
  | cons step rest ih =>
    cases others with
    | nil => cases h
    | cons other others =>
      obtain ⟨hstep, hrest⟩ := Bool.and_eq_true_iff.1 h
      rw [replay, replay, advance_eq_of_same hstep]
      split
      · exact ih hrest _ _
      · rfl

end Session

namespace Program

theorem judge_eq_of_same {a b : Program} (h : a.same b = true) (lookup : Session.Lookup σ)
    (state : σ) : a.judge lookup state = b.judge lookup state := by
  obtain ⟨htarget, -⟩ := Bool.and_eq_true_iff.1 h
  obtain ⟨-, hsteps⟩ := Bool.and_eq_true_iff.1 htarget
  rw [judge, judge, Session.replay_eq_of_sameSteps hsteps]

theorem limit_eq_of_same {a b : Program} (h : a.same b = true) : a.limit = b.limit := by
  obtain ⟨-, hcap⟩ := Bool.and_eq_true_iff.1 h
  rw [Program.limit, Program.limit, eq_of_beq hcap]

theorem scan_eq_of_same {a b : Program} (h : a.same b = true) : a.scan = b.scan := by
  obtain ⟨htarget, -⟩ := Bool.and_eq_true_iff.1 h
  obtain ⟨hcollection, -⟩ := Bool.and_eq_true_iff.1 htarget
  funext limit
  rw [scan, scan, eq_of_beq hcollection]

/-- Queries of programs that are the same are the same: they find the same records, or fail at the same
position and for the same reason, and leave the same state around them, whatever lookups and reports
do to it. -/
theorem queries_eq_of_same [Reports σ] {a b : Program} (h : a.same b = true)
    (lookup : ρ → Session.Lookup σ) (records : List ρ) (state : σ) :
    a.execute lookup records state = b.execute lookup records state ∧
      a.first lookup records state = b.first lookup records state := by
  have hjudge : (fun record => a.judge (lookup record)) = fun record => b.judge (lookup record) := by
    funext record state
    exact judge_eq_of_same h (lookup record) state
  constructor
  · rw [execute, execute, hjudge, limit_eq_of_same h, scan_eq_of_same h]
  · rw [first, first, hjudge, scan_eq_of_same h]

/-- Two integers that round to the same double, in two representations, among the candidates; and a
limit that is a double. -/
theorem queries_eq_of_same_rounded :
    let program := fun (candidate limit : Number) =>
      (((on "counters").whereField "total").compare .member
        (.list [.null, .number candidate])).append .limit (some (.number limit))
    let exact := program (.integer 9007199254740993) (.natural 2)
    let rounded := program (.natural 9007199254740992) (.double ⟨0x4000000000000000⟩)
    let fields : Number → Fields := fun total _ => .ok (.number total)
    let totals := [(0, .natural 9007199254740992), (1, .natural 7), (2, .integer 9007199254740993)]
    let lookup := fun (row : Nat × Number) => (fields row.2).traced row.1
    exact.same rounded = true ∧ exact.text ≠ rounded.text ∧
      exact.execute lookup totals {} = rounded.execute lookup totals {} := by
  intro program exact rounded fields totals lookup
  have hsame : exact.same rounded = true := by decide +kernel
  exact ⟨hsame, by decide +kernel, (queries_eq_of_same hsame lookup totals {}).1⟩

end Program

end RecordStore
