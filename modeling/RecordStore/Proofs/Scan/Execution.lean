import RecordStore.Proofs.Scan.Outcome

/-!
# Queries over records at rest

What a program finds in a list of records whose fields do not change. The verdicts on the single
records settle it: the results are the first matches, as many as the limit wants, unless a record
that cannot be evaluated stands in front of the last of them. No record behind the end of the scan
is looked at, so that a failure there goes unnoticed.
-/

namespace RecordStore.Program

open Scan

variable {σ ρ : Type} [Reports σ]

theorem limit_pos {program : Program} {n : Nat} (h : program.limit = some n) : 0 < n := by
  rw [limit, Option.filter_eq_some_iff] at h
  simpa using h.2

/-- The results of a program and the records that it evaluates: up to the match that makes up the
limit, if no record in front of it fails; up to the first failing record, if the limit is not made up
before; and all of them otherwise. -/
theorem execute_ends (program : Program) (fields : ρ → Fields) (note : ρ → String → σ → σ)
    (records : List ρ) (state : σ) :
    let verdict := fun record => program.verdict (fields record)
    let lookup := fun record => (fields record).observed (note record)
    let found := hits verdict records
    let scan := program.scan program.limit
    let visited := fun count =>
      scan.visit (fun record => program.judge (lookup record)) 0 (records.take count) state
    let completed := fun scanned matched =>
      Reports.report (.completed scan.collection scanned matched program.limit) (visited scanned)
    (∀ n k, program.limit = some n → NthHit verdict records n k →
        (∀ e cause, FirstFailure verdict records e cause → k < e) →
        program.execute lookup records state = (.ok (found.take n), completed (k + 1) n)) ∧
      ((∀ e cause, ¬ FirstFailure verdict records e cause) →
        (∀ n k, program.limit = some n → ¬ NthHit verdict records n k) →
        program.execute lookup records state =
          (.ok found, completed records.length found.length)) ∧
      (∀ e cause, FirstFailure verdict records e cause →
        (∀ n k, program.limit = some n → NthHit verdict records n k → ¬ k < e) →
        program.execute lookup records state = (.error ⟨e, cause⟩, visited (e + 1))) ∧
      ∀ total, (program.count lookup records state).1 = .ok total →
        total = program.limit.elim found.length (min · found.length) := by
  intro verdict lookup found scan visited completed
  have hjudge : ∀ record state, (program.judge (lookup record) state).1 = verdict record :=
    fun record state => program.judge_observed (fields record) (note record) state
  refine ⟨?_, ?_, ?_, ?_⟩
  · intro n k hlimit hnth hbefore
    have hok : ∀ record ∈ records.take k, ∃ hit, verdict record = .ok hit := by
      refine Classical.byContradiction fun hfail => ?_
      obtain ⟨e, cause, hfirst⟩ := exists_firstFailure hfail
      obtain ⟨hlt, hfirst⟩ := hfirst.of_take
      have hgt := hbefore e cause hfirst
      omega
    exact overList_filled scan hjudge hlimit hnth hok state
  · intro hnone hfew
    have hok : ∀ record ∈ records, ∃ hit, verdict record = .ok hit := by
      refine Classical.byContradiction fun hfail => ?_
      obtain ⟨e, cause, hfirst⟩ := exists_firstFailure hfail
      exact hnone e cause hfirst
    have hroom : ∀ n, program.limit = some n → found.length < n := by
      intro n hlimit
      refine Nat.lt_of_not_le fun hle => ?_
      obtain ⟨k, hnth⟩ := exists_nthHit (limit_pos hlimit) hle
      exact hfew n k hlimit hnth
    have hend := overList_exhausted scan hjudge hok hroom state
    have hall : records.take records.length = records := List.take_length
    simp only [completed, visited, hall]
    exact hend
  · intro e cause hfirst hfew
    have hroom : ∀ n, program.limit = some n → (hits verdict (records.take e)).length < n := by
      intro n hlimit
      refine Nat.lt_of_not_le fun hle => ?_
      obtain ⟨k, hk⟩ := exists_nthHit (limit_pos hlimit) hle
      obtain ⟨hlt, hnth⟩ := hk.of_take
      exact hfew n k hlimit hnth hlt
    exact overList_failed scan hjudge hfirst hroom state
  · intro total htotal
    change Except.map List.length (scan.overList _ {} records state).1 = .ok total at htotal
    rcases end_cases verdict records program.limit (fun n => limit_pos) with
      ⟨n, k, hlimit, hnth, hok⟩ | ⟨hok, hroom⟩ | ⟨e, cause, hfirst, hroom⟩
    · rw [overList_filled scan hjudge hlimit hnth hok state] at htotal
      cases htotal
      rw [hlimit, List.length_take, Option.elim_some]
    · rw [overList_exhausted scan hjudge hok hroom state] at htotal
      cases htotal
      cases hlimit : program.limit with
      | none => rfl
      | some n =>
        have hlt := hroom n hlimit
        rw [Option.elim_some, Nat.min_eq_right (Nat.le_of_lt hlt)]
    · rw [overList_failed scan hjudge hfirst hroom state] at htotal
      cases htotal

/-- Under a limit of two, a record behind the second match that cannot be evaluated goes unnoticed. -/
theorem execute_ends_before_failure :
    let program := (((on "tasks").whereField "done").compare .eq (.bool true)).limitTo 2
    let fields : Value → Fields := fun value _ => .ok value
    let records : List Value := [.bool true, .bool false, .bool true, .string "late"]
    let lookup := fun record => (fields record).observed fun _ (events : Array Event) => events
    program.verdict (fields (.string "late")) =
        .error (.typeMismatch "done" .exact .bool .string) ∧
      program.execute lookup records #[] =
        (.ok [.bool true, .bool true],
          #[.evaluated "tasks" 0 true, .evaluated "tasks" 1 false, .evaluated "tasks" 2 true,
            .completed "tasks" 3 2 (some 2)]) := by
  intro program fields records lookup
  have hnth : NthHit (fun record => program.verdict (fields record)) records 2 2 := ⟨rfl, rfl⟩
  have hbefore : ∀ e cause,
      FirstFailure (fun record => program.verdict (fields record)) records e cause → 2 < e := by
    intro e cause hfirst
    have hfailure := hfirst.failure
    match e with
    | 0 | 1 | 2 => cases hfailure
    | e + 3 => omega
  refine ⟨rfl, ?_⟩
  exact (execute_ends program fields (fun _ _ events => events) records #[]).1 2 2 rfl hnth hbefore

end RecordStore.Program
