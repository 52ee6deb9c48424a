import RecordStore.Scan.Basic

/-!
# Scans side by side

Two scans whose evaluations give the same verdicts go the same way, whatever states surround them.
What the states have in common at the start they have in common at the end, as long as evaluations
and reports keep it. The two ways of reaching the records are compared at the turns of a scan, which
are the only moments when it fetches one: as long as the positions then hold what the list has there,
fetching the records one by one is scanning the list.
-/

namespace RecordStore

/-- Two outcomes agree when the answers are the same and the states are related. -/
structure Agree {α σ τ : Type} (R : σ → τ → Prop) (x : α × σ) (y : α × τ) : Prop where
  answer : x.1 = y.1
  state : R x.2 y.2

namespace Scan

variable {σ τ ρ : Type} [Reports σ] [Reports τ]

theorem consider_onward_scanned {scan : Scan} {judge : ρ → σ → Except EvalError Bool × σ}
    {tally next : Tally ρ} {record : ρ} {state after : σ}
    (h : scan.consider judge tally record state = (.onward next, after)) :
    next.scanned = tally.scanned + 1 := by
  rw [consider] at h
  split at h
  · cases h
  · rename_i hit _ _
    simp only [Prod.mk.injEq] at h
    obtain ⟨hturn, -⟩ := h
    split at hturn <;> cases hturn
    rfl

section Agree

variable {R : σ → τ → Prop} {judge : ρ → σ → Except EvalError Bool × σ}
  {judge' : ρ → τ → Except EvalError Bool × τ}
  (hreport : ∀ event s t, R s t → R (Reports.report event s) (Reports.report event t))
  (hjudge : ∀ record s t, R s t → Agree R (judge record s) (judge' record t))

include hreport

theorem finish_agree (scan : Scan) (tally : Tally ρ) {s : σ} {t : τ} (h : R s t) :
    Agree R (scan.finish tally s) (scan.finish tally t) :=
  ⟨rfl, hreport _ s t h⟩

include hjudge

theorem consider_agree (scan : Scan) (tally : Tally ρ) (record : ρ) {s : σ} {t : τ} (h : R s t) :
    Agree R (scan.consider judge tally record s) (scan.consider judge' tally record t) := by
  have hagree := hjudge record s t h
  rw [consider, consider]
  rcases hleft : judge record s with ⟨outcome, s⟩
  rcases hright : judge' record t with ⟨outcome', t⟩
  rw [hleft, hright] at hagree
  obtain ⟨hanswer, hstate⟩ := hagree
  cases hanswer
  cases outcome with
  | error cause => exact ⟨rfl, hreport _ s t hstate⟩
  | ok hit => exact ⟨rfl, hreport _ s t hstate⟩

theorem overList_agree (scan : Scan) (tally : Tally ρ) (records : List ρ) {s : σ} {t : τ}
    (h : R s t) :
    Agree R (scan.overList judge tally records s) (scan.overList judge' tally records t) := by
  induction records generalizing tally s t with
  | nil => exact finish_agree hreport scan tally h
  | cons record rest ih =>
    have hagree := consider_agree hreport hjudge scan tally record h
    rw [overList, overList]
    rcases hleft : scan.consider judge tally record s with ⟨turn, s⟩
    rcases hright : scan.consider judge' tally record t with ⟨turn', t⟩
    rw [hleft, hright] at hagree
    obtain ⟨hturn, hstate⟩ := hagree
    cases hturn
    cases turn with
    | onward next => exact ih next hstate
    | full last => exact finish_agree hreport scan last hstate
    | aborted error => exact ⟨rfl, hstate⟩

end Agree

/-! ### Fetched records -/

section Turns

variable {judge : ρ → σ → Except EvalError Bool × σ} {P Q : σ → Prop}

/-- A property holds of the state each time when a scan turns to the rest of its list, until it
ends. -/
def AtTurns (scan : Scan) (judge : ρ → σ → Except EvalError Bool × σ) (P : σ → Prop)
    (tally : Tally ρ) : List ρ → σ → Prop
  | [], state => P state
  | record :: rest, state =>
    P state ∧ ∀ next after, scan.consider judge tally record state = (.onward next, after) →
      scan.AtTurns judge P next rest after

theorem AtTurns.now {scan : Scan} {tally : Tally ρ} {records : List ρ} {state : σ}
    (h : scan.AtTurns judge P tally records state) : P state := by
  cases records with
  | nil => exact h
  | cons record rest => exact h.1

theorem AtTurns.imp {scan : Scan} (himp : ∀ state, P state → Q state) {tally : Tally ρ}
    {records : List ρ} {state : σ} (h : scan.AtTurns judge P tally records state) :
    scan.AtTurns judge Q tally records state := by
  induction records generalizing tally state with
  | nil => exact himp state h
  | cons record rest ih =>
    exact ⟨himp state h.1, fun next after hturn => ih (h.2 next after hturn)⟩

/-- Fetching the records one by one is scanning the list, from the place that the scan has reached,
if at each turn every position holds what the list has there. The bound has to leave room for the
rest of the list. -/
theorem overPositions_eq_overList (scan : Scan) {fetch : Nat → σ → Option ρ} {records : List ρ}
    (bound : Nat) (tally : Tally ρ) (hbound : records.length ≤ tally.scanned + bound) {state : σ}
    (h : scan.AtTurns judge (fun s => ∀ position, fetch position s = records[position]?) tally
      (records.drop tally.scanned) state) :
    scan.overPositions fetch judge bound tally state =
      scan.overList judge tally (records.drop tally.scanned) state := by
  induction bound generalizing tally state with
  | zero => rw [overPositions, List.drop_eq_nil_of_le (by omega), overList]
  | succ bound ih =>
    rw [overPositions, h.now tally.scanned]
    rcases Nat.lt_or_ge tally.scanned records.length with hlt | hge
    · rw [List.drop_eq_getElem_cons hlt] at h ⊢
      rw [List.getElem?_eq_getElem hlt, overList]
      dsimp only
      rcases hturn : scan.consider judge tally records[tally.scanned] state with ⟨turn, after⟩
      cases turn with
      | onward next =>
        have hnext := consider_onward_scanned hturn
        have hrest := h.2 next after hturn
        rw [← hnext] at hrest ⊢
        exact ih next (by omega) hrest
      | full last => rfl
      | aborted error => rfl
    · rw [List.getElem?_eq_none hge, List.drop_eq_nil_of_le hge, overList]

end Turns

end Scan

end RecordStore
