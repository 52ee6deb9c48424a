import RecordStore.Proofs.Scan.Outcome
import RecordStore.Proofs.Session.Duality

/-!
# Queries of dual programs

A program and its dual come to opposite verdicts on every record, or to the same failure. So without
a limit both find what they look for or neither does, and what the one finds is what the other leaves.
-/

namespace RecordStore

namespace Scan

variable {σ ρ : Type} [Reports σ] {judge opposite : ρ → σ → Except EvalError Bool × σ}
  {verdict : ρ → Except EvalError Bool}

theorem FirstFailure.map_not {records : List ρ} {e : Nat} {cause : EvalError}
    (h : FirstFailure verdict records e cause) :
    FirstFailure (fun record => (verdict record).map not) records e cause := by
  constructor
  · obtain ⟨record, hrecord, hverdict⟩ := Option.map_eq_some_iff.1 h.failure
    rw [hrecord, Option.map_some, hverdict]
    rfl
  · intro record hmem
    obtain ⟨hit, hhit⟩ := h.before record hmem
    exact ⟨!hit, by rw [hhit]; rfl⟩

theorem hits_map_not {records : List ρ} (h : ∀ record ∈ records, ∃ hit, verdict record = .ok hit) :
    hits (fun record => (verdict record).map not) records =
      records.filter fun record => !isHit (verdict record) := by
  apply List.filter_congr
  intro record hmem
  obtain ⟨hit, hhit⟩ := h record hmem
  simp only [hhit]
  rfl

/-- Scans without a limit that come to opposite verdicts split the records, or fail alike. -/
theorem overList_opposite (scan : Scan) (hlimit : scan.limit = none)
    (hjudge : ∀ record state, (judge record state).1 = verdict record)
    (hopposite : ∀ record state, (opposite record state).1 = (verdict record).map not)
    (records : List ρ) (state : σ) :
    let found := (scan.overList judge {} records state).1
    let others := (scan.overList opposite {} records state).1
    (∃ kept left, found = .ok kept ∧ others = .ok left ∧
        records.partition (fun record => isHit (verdict record)) = (kept, left)) ∨
      ∃ error, found = .error error ∧ others = .error error := by
  intro found others
  have hnone : ∀ (count n : Nat), scan.limit = some n → count < n := by
    intro count n hn
    rw [hlimit] at hn
    cases hn
  rcases end_cases verdict records scan.limit (hnone 0) with
    ⟨n, k, hn, -⟩ | ⟨hok, -⟩ | ⟨e, cause, hfirst, -⟩
  · rw [hlimit] at hn
    cases hn
  · have hok' : ∀ record ∈ records, ∃ hit, (verdict record).map not = .ok hit := by
      intro record hmem
      obtain ⟨hit, hhit⟩ := hok record hmem
      exact ⟨!hit, by rw [hhit]; rfl⟩
    have hfound := overList_exhausted scan hjudge hok (hnone _) state
    have hothers := overList_exhausted scan hopposite hok' (hnone _) state
    refine .inl ⟨_, _, congrArg Prod.fst hfound, congrArg Prod.fst hothers, ?_⟩
    rw [List.partition_eq_filter_filter, hits_map_not hok]
    rfl
  · have hfound := overList_failed scan hjudge hfirst (hnone _) state
    have hothers := overList_failed scan hopposite hfirst.map_not (hnone _) state
    exact .inr ⟨⟨e, cause⟩, congrArg Prod.fst hfound, congrArg Prod.fst hothers⟩

end Scan

namespace Program

/-- A program that opens plainly and its dual run the same comparisons, look up the same names in the
same order, and come to opposite verdicts or to the same failure. Without a limit they split any
records between them, or fail alike. -/
theorem dual_opposite {program : Program} (h : program.OpensPlainly) :
    (∀ {σ : Type} (lookup : Session.Lookup σ) (state : σ),
        let judged := program.judge lookup.noted (state, [])
        program.dual.course lookup.noted (state, []) = program.course lookup.noted (state, []) ∧
          program.dual.judge lookup.noted (state, []) = (judged.1.map not, judged.2)) ∧
      ∀ {σ ρ : Type} [Reports σ] (fields : ρ → Fields) (note : ρ → String → σ → σ)
        (records : List ρ) (state : σ), program.limit = none →
        let lookup := fun record => (fields record).observed (note record)
        let found := (program.execute lookup records state).1
        let others := (program.dual.execute lookup records state).1
        (∃ kept left, found = .ok kept ∧ others = .ok left ∧
            records.partition (fun record => Scan.isHit (program.verdict (fields record))) =
              (kept, left)) ∨
          ∃ error, found = .error error ∧ others = .error error := by
  refine ⟨fun lookup state => ⟨course_dual h _ _, judge_dual h _ _⟩, ?_⟩
  intro σ ρ _ fields note records state hlimit lookup found others
  have hjudge : ∀ record state,
      (program.judge (lookup record) state).1 = program.verdict (fields record) :=
    fun record state => program.judge_observed (fields record) (note record) state
  have hopposite : ∀ record state, (program.dual.judge (lookup record) state).1 =
      (program.verdict (fields record)).map not := by
    intro record state
    rw [judge_dual h, ← hjudge record state]
  exact (program.scan program.limit).overList_opposite hlimit hjudge hopposite records state

/-- A task that is done, or else not late, and one that is not done, and late. -/
theorem dual_opposite_tasks :
    let done := ((on "tasks").whereField "done").compare .eq (.bool true)
    let program := (done.connect .or (some "late")).negate.compare .is (.truth .true)
    let fields : Bool × Bool → Fields := fun task name =>
      .ok (.bool (if name = "done" then task.1 else task.2))
    let lookup := fun task => (fields task).observed fun _ (events : Array Event) => events
    let tasks := [(true, true), (false, true), (false, false)]
    program.OpensPlainly ∧ program.limit = none ∧
      program.dual.steps =
        [⟨.bind (some "done"), none⟩, ⟨.negate, none⟩, ⟨.compare .eq none, some (.bool true)⟩,
          ⟨.connect .and (some "late"), none⟩, ⟨.compare .is none, some (.truth .true)⟩] ∧
      (program.execute lookup tasks #[]).1 = .ok [(true, true), (false, false)] ∧
      (program.dual.execute lookup tasks #[]).1 = .ok [(false, true)] := by
  intro done program fields lookup tasks
  have hopens : program.OpensPlainly :=
    ⟨⟨_, List.mem_cons_of_mem _ List.mem_cons_self, rfl⟩, by decide⟩
  have hfound : (program.execute lookup tasks #[]).1 = .ok [(true, true), (false, false)] := rfl
  refine ⟨hopens, rfl, rfl, hfound, ?_⟩
  rcases (dual_opposite hopens).2 fields (fun _ _ (events : Array Event) => events)
    tasks #[] rfl with
    ⟨kept, left, -, hleft, hsplit⟩ | ⟨error, herror, -⟩
  · cases hsplit
    exact hleft
  · cases hfound.symm.trans herror

end Program

end RecordStore
