import RecordStore.Scan.Lemmas
import RecordStore.Session.Lemmas

/-!
# What a scan keeps

The lookups of a scan and its reports are all that can change the state around it. A property of that
state which each of them keeps is therefore kept by the whole scan, wherever it ends, whether the
records come from a list or are fetched by position.
-/

namespace RecordStore

variable {σ ρ : Type} {P : σ → Prop}

/-- A lookup that keeps a property of the state around it, whatever name it is asked for. -/
def Session.Lookup.Keeps (lookup : Session.Lookup σ) (P : σ → Prop) : Prop :=
  ∀ name state, P state → P (lookup name state).2

theorem Session.advance_keeps {lookup : Session.Lookup σ} (hlookup : lookup.Keeps P) (s : Session)
    (step : Step) {state : σ} (h : P state) : P (s.advance lookup step state).2 := by
  rw [advance]
  cases s.step step with
  | settled next => exact h
  | fails error => exact h
  | asks question inverts => exact hlookup question.field state h

theorem Session.replay_keeps {lookup : Session.Lookup σ} (hlookup : lookup.Keeps P) (s : Session)
    (steps : List Step) {state : σ} (h : P state) : P (s.replay lookup steps state).2 := by
  induction steps generalizing s state with
  | nil => exact h
  | cons step rest ih =>
    have hnext := Session.advance_keeps hlookup s step h
    rw [replay]
    split
    · rename_i next after hadvance
      rw [hadvance] at hnext
      exact ih next hnext
    · rename_i error after hadvance
      rw [hadvance] at hnext
      exact hnext

theorem Program.judge_keeps {lookup : Session.Lookup σ} (hlookup : lookup.Keeps P)
    (program : Program) {state : σ} (h : P state) : P (program.judge lookup state).2 :=
  Session.replay_keeps hlookup {} program.steps h

theorem Program.judge_lookup (program : Program) (fields : Fields) (state : σ) :
    program.judge fields.lookup state = (program.verdict fields, state) := by
  have hanswers : ∀ name (s : σ), (fields.lookup name s).1 = fields name := fun _ _ => rfl
  have hkeeps : Session.Lookup.Keeps fields.lookup (· = state) := fun _ _ h => h
  exact Prod.ext (program.judge_answer hanswers state) (program.judge_keeps hkeeps rfl)

namespace Scan

variable [Reports σ] {judge : ρ → σ → Except EvalError Bool × σ}
  (hreport : ∀ event state, P state → P (Reports.report event state))
  (hjudge : ∀ record state, P state → P (judge record state).2)

include hreport

theorem finish_keeps (scan : Scan) (tally : Tally ρ) {state : σ} (h : P state) :
    P (scan.finish tally state).2 :=
  hreport (.completed scan.collection tally.scanned tally.matched.size scan.limit) state h

include hjudge

theorem consider_keeps (scan : Scan) (tally : Tally ρ) (record : ρ) {state : σ} (h : P state) :
    P (scan.consider judge tally record state).2 := by
  have hjudged := hjudge record state h
  rw [consider]
  split
  · rename_i cause after heq
    rw [heq] at hjudged
    exact hreport (.aborted scan.collection tally.scanned cause) after hjudged
  · rename_i hit after heq
    rw [heq] at hjudged
    exact hreport (.evaluated scan.collection tally.scanned hit) after hjudged

theorem atTurns_of_keeps (scan : Scan) (tally : Tally ρ) (records : List ρ) {state : σ}
    (h : P state) : scan.AtTurns judge P tally records state := by
  induction records generalizing tally state with
  | nil => exact h
  | cons record rest ih =>
    refine ⟨h, fun next after hturn => ih next ?_⟩
    have hafter := consider_keeps hreport hjudge scan tally record h
    rwa [hturn] at hafter

theorem overList_keeps (scan : Scan) (tally : Tally ρ) (records : List ρ) {state : σ}
    (h : P state) : P (scan.overList judge tally records state).2 := by
  induction records generalizing tally state with
  | nil => exact finish_keeps hreport scan tally h
  | cons record rest ih =>
    have hturn := consider_keeps hreport hjudge scan tally record h
    rw [overList]
    split
    · rename_i next after heq
      rw [heq] at hturn
      exact ih next hturn
    · rename_i last after heq
      rw [heq] at hturn
      exact finish_keeps hreport scan last hturn
    · rename_i error after heq
      rw [heq] at hturn
      exact hturn

theorem overPositions_keeps (scan : Scan) (fetch : Nat → σ → Option ρ) (bound : Nat)
    (tally : Tally ρ) {state : σ} (h : P state) :
    P (scan.overPositions fetch judge bound tally state).2 := by
  induction bound generalizing tally state with
  | zero => exact finish_keeps hreport scan tally h
  | succ bound ih =>
    rw [overPositions]
    split
    · exact finish_keeps hreport scan tally h
    · rename_i record _
      have hturn := consider_keeps hreport hjudge scan tally record h
      split
      · rename_i next after heq
        rw [heq] at hturn
        exact ih next hturn
      · rename_i last after heq
        rw [heq] at hturn
        exact finish_keeps hreport scan last hturn
      · rename_i error after heq
        rw [heq] at hturn
        exact hturn

end Scan

end RecordStore
