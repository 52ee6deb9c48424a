import Mathlib.Data.List.Induction
import RecordStore.Proofs.Scan.First
import RecordStore.Proofs.Scan.Preservation

/-!
# What a scan reports

The events of a scan give an account of it. There is one for each record that could be evaluated, in
the order of the positions, and then a single one that ends them: the completion, with the number of
the records and the number of the matches among them, or the failure of the record that stands next.

The counts in this last event are the ones that the scan has kept on its way. That they are counts of
the events in front of it is what ties them to the account. It holds wherever the events are kept, as
long as reports are all that adds to them and evaluations leave them alone.
-/

namespace RecordStore

namespace Event

def ofLevel (level : Level) (events : List Event) : List Event := events.filter (·.level = level)

def isMatch : Event → Bool
  | evaluated _ _ hit => hit
  | completed _ _ _ _ | aborted _ _ _ | created _ _ | dropped _ => false

@[simp] theorem ofLevel_append (level : Level) (first second : List Event) :
    ofLevel level (first ++ second) = ofLevel level first ++ ofLevel level second :=
  List.filter_append first second

@[simp] theorem ofLevel_singleton (level : Level) (event : Event) :
    ofLevel level [event] = if event.level = level then [event] else [] := by
  simp [ofLevel, List.filter_cons]

end Event

namespace Scan

variable {ρ : Type}

/-- The reports on records that are evaluated one after the other. -/
def evaluations (scan : Scan) (verdict : ρ → Except EvalError Bool) (records : List ρ) : List Event :=
  records.mapIdx fun position record => .evaluated scan.collection position (isHit (verdict record))

/-- The events of a scan give account of its outcome. They are the reports on the records that have
been evaluated, followed by one more. If the scan succeeds, this is its completion, with the number of
the reports, the number of the results, which is that of the reports on matches, and the limit; the
records are exhausted then, or the limit is made up by the last of those that have been evaluated. If
the scan fails, it is the failure, and the record at the place of the error is the first without a
report. -/
structure Accounts (scan : Scan) (verdict : ρ → Except EvalError Bool) (records evaluated : List ρ)
    (outcome : Except ScanError (List ρ)) (events : List Event) : Prop where
  front : evaluated <+: records
  verdicts : ∀ record ∈ evaluated, ∃ hit, verdict record = .ok hit
  order : events =
    Event.ofLevel .trace events ++ Event.ofLevel .debug events ++ Event.ofLevel .warn events
  traces : Event.ofLevel .trace events = scan.evaluations verdict evaluated
  completed : ∀ found, outcome = .ok found →
    let scanned := (Event.ofLevel .trace events).length
    Event.ofLevel .debug events =
        [.completed scan.collection scanned found.length scan.limit] ∧
      Event.ofLevel .warn events = [] ∧
      found = hits verdict evaluated ∧ found.length = events.countP Event.isMatch ∧
      (evaluated = records ∨
        scan.limit = some found.length ∧ evaluated.getLast?.map verdict = some (.ok true))
  aborted : ∀ error, outcome = .error error →
    Event.ofLevel .warn events = [.aborted scan.collection error.position error.cause] ∧
      Event.ofLevel .debug events = [] ∧
      error.position = (Event.ofLevel .trace events).length ∧
      records[error.position]?.map verdict = some (.error error.cause)

/-! ### The reports on records -/

section

variable (scan : Scan) (verdict : ρ → Except EvalError Bool) {records evaluated : List ρ}

theorem evaluations_concat (records : List ρ) (record : ρ) :
    scan.evaluations verdict (records ++ [record]) =
      scan.evaluations verdict records ++
        [.evaluated scan.collection records.length (isHit (verdict record))] :=
  List.mapIdx_concat

@[simp] theorem length_evaluations (records : List ρ) :
    (scan.evaluations verdict records).length = records.length :=
  List.length_mapIdx

theorem level_of_mem_evaluations {event : Event} (h : event ∈ scan.evaluations verdict records) :
    event.level = .trace := by
  obtain ⟨position, hposition, rfl⟩ := List.mem_mapIdx.1 h
  rfl

@[simp] theorem ofLevel_evaluations (level : Event.Level) (records : List ρ) :
    Event.ofLevel level (scan.evaluations verdict records) =
      if level = .trace then scan.evaluations verdict records else [] := by
  have hlevel : ∀ event ∈ scan.evaluations verdict records, event.level = .trace :=
    fun _ hmem => level_of_mem_evaluations scan verdict hmem
  split
  · rename_i htrace
    refine List.filter_eq_self.2 fun event hmem => decide_eq_true ?_
    rw [hlevel event hmem, htrace]
  · rename_i hother
    refine List.filter_eq_nil_iff.2 fun event hmem heq => hother ?_
    rw [← of_decide_eq_true heq, hlevel event hmem]

@[simp] theorem countP_evaluations (records : List ρ) :
    (scan.evaluations verdict records).countP Event.isMatch = (hits verdict records).length := by
  induction records using List.reverseRecOn with
  | nil => rfl
  | append_singleton records record ih =>
    rw [evaluations_concat, List.countP_append, ih, hits_append, List.length_append]
    cases hhit : isHit (verdict record) with
    | true => simp [Event.isMatch, hits, hhit]
    | false => simp [Event.isMatch, hits, hhit]

/-! ### The last event -/

theorem accounts_of_completed (hfront : evaluated <+: records)
    (hok : ∀ record ∈ evaluated, ∃ hit, verdict record = .ok hit)
    (hend : evaluated = records ∨ scan.limit = some (hits verdict evaluated).length ∧
      evaluated.getLast?.map verdict = some (.ok true)) :
    Accounts scan verdict records evaluated (.ok (hits verdict evaluated))
      (scan.evaluations verdict evaluated ++ [.completed scan.collection evaluated.length
        (hits verdict evaluated).length scan.limit]) := by
  constructor
  case front => exact hfront
  case verdicts => exact hok
  case order => simp [Event.level]
  case traces => simp [Event.level]
  case completed =>
    rintro _ ⟨⟩
    simpa [Event.level, Event.isMatch] using hend
  case aborted =>
    rintro _ ⟨⟩

theorem accounts_of_aborted {e : Nat} {cause : EvalError}
    (h : FirstFailure verdict records e cause) :
    Accounts scan verdict records (records.take e) (.error ⟨e, cause⟩)
      (scan.evaluations verdict (records.take e) ++ [.aborted scan.collection e cause]) := by
  obtain ⟨-, -, hlength, -, -⟩ := exists_at h.failure
  constructor
  case front => exact List.take_prefix e records
  case verdicts => exact h.before
  case order => simp [Event.level]
  case traces => simp [Event.level]
  case completed =>
    rintro _ ⟨⟩
  case aborted =>
    rintro _ ⟨⟩
    refine ⟨?_, ?_, ?_, h.failure⟩
    · simp [Event.level]
    · simp [Event.level]
    · simp [Event.level, -List.length_take, hlength]

end

/-! ### The events of a scan -/

section Log

variable {σ : Type} [Reports σ] (scan : Scan) {log : σ → List Event}
  {judge : ρ → σ → Except EvalError Bool × σ} {verdict : ρ → Except EvalError Bool}
  (hreport : ∀ event state, log (Reports.report event state) = log state ++ [event])
  (hquiet : ∀ record state, log (judge record state).2 = log state)
  (hjudge : ∀ record state, (judge record state).1 = verdict record)

include hreport hquiet hjudge

theorem log_visit_singleton_ok (position : Nat) {record : ρ} {hit : Bool}
    (h : verdict record = .ok hit) (state : σ) :
    log (scan.visit judge position [record] state) =
      log state ++ [.evaluated scan.collection position hit] := by
  rw [visit, visit, hreport, hquiet, hjudge, h]

theorem log_visit_singleton_error (position : Nat) {record : ρ} {cause : EvalError}
    (h : verdict record = .error cause) (state : σ) :
    log (scan.visit judge position [record] state) =
      log state ++ [.aborted scan.collection position cause] := by
  rw [visit, visit, hreport, hquiet, hjudge, h]

theorem log_visit {records : List ρ} (hok : ∀ record ∈ records, ∃ hit, verdict record = .ok hit)
    (state : σ) :
    log (scan.visit judge 0 records state) = log state ++ scan.evaluations verdict records := by
  -- from the end, where the position of a record is the number of those in front of it
  induction records using List.reverseRecOn with
  | nil => exact (List.append_nil _).symm
  | append_singleton records record ih =>
    obtain ⟨hrecords, hlast⟩ := List.forall_mem_append.1 hok
    obtain ⟨hit, hhit⟩ := hlast record List.mem_cons_self
    rw [visit_append, log_visit_singleton_ok scan hreport hquiet hjudge _ hhit, ih hrecords,
      evaluations_concat, hhit, Nat.zero_add, List.append_assoc]
    rfl

theorem overList_accounts (hpos : ∀ n, scan.limit = some n → 0 < n) (records : List ρ) (state : σ) :
    ∃ evaluated events,
      log (scan.overList judge {} records state).2 = log state ++ events ∧
        Accounts scan verdict records evaluated (scan.overList judge {} records state).1 events := by
  rcases end_cases verdict records scan.limit hpos with
    ⟨n, k, hlimit, hnth, hok⟩ | ⟨hok, hroom⟩ | ⟨e, cause, hfirst, hroom⟩
  · obtain ⟨record, hverdict, hlength, htake, -⟩ := exists_at hnth.hit
    have hall : ∀ record ∈ records.take (k + 1), ∃ hit, verdict record = .ok hit := by
      rw [htake]
      exact List.forall_mem_append.2 ⟨hok, List.forall_mem_singleton.2 ⟨true, hverdict⟩⟩
    have hfilled : scan.limit = some (hits verdict (records.take (k + 1))).length ∧
        (records.take (k + 1)).getLast?.map verdict = some (.ok true) := by
      rw [hnth.length_hits_take, htake, List.getLast?_concat, Option.map_some, hverdict]
      exact ⟨hlimit, rfl⟩
    have haccounts := accounts_of_completed scan verdict (List.take_prefix (k + 1) records) hall
      (.inr hfilled)
    have hscanned : (records.take (k + 1)).length = k + 1 := by
      rw [htake, List.length_append, hlength, List.length_singleton]
    rw [hscanned, hnth.length_hits_take, hnth.hits_take] at haccounts
    rw [overList_filled scan hjudge hlimit hnth hok, hreport,
      log_visit scan hreport hquiet hjudge hall, List.append_assoc]
    exact ⟨_, _, rfl, haccounts⟩
  · rw [overList_exhausted scan hjudge hok hroom, hreport, log_visit scan hreport hquiet hjudge hok,
      List.append_assoc]
    exact ⟨_, _, rfl, accounts_of_completed scan verdict List.prefix_rfl hok (.inl rfl)⟩
  · obtain ⟨record, hverdict, hlength, htake, -⟩ := exists_at hfirst.failure
    rw [overList_failed scan hjudge hfirst hroom, htake, visit_append,
      log_visit_singleton_error scan hreport hquiet hjudge _ hverdict,
      log_visit scan hreport hquiet hjudge hfirst.before, hlength, Nat.zero_add, List.append_assoc]
    exact ⟨_, _, rfl, accounts_of_aborted scan verdict hfirst⟩

end Log

end Scan

namespace Program

variable {σ ρ : Type} [Reports σ] {fields : ρ → Fields} {lookup : ρ → Session.Lookup σ}

/-- The query for the first match loses nothing that its scan finds. -/
theorem first_map_toList (program : Program)
    (hpure : ∀ record name s, (lookup record name s).1 = fields record name) (records : List ρ)
    (state : σ) :
    (program.first lookup records state).1.map Option.toList =
      ((program.scan (some 1)).overList (fun record => program.judge (lookup record)) {} records
        state).1 := by
  have hjudge : ∀ record state,
      (program.judge (lookup record) state).1 = program.verdict (fields record) :=
    fun record state => program.judge_answer (hpure record) state
  have hlimit : (program.scan (some 1)).limit = some 1 := rfl
  have hle : ∀ n, (program.scan (some 1)).limit = some n → 1 ≤ n := by
    rintro _ ⟨⟩
    exact Nat.le_refl 1
  obtain ⟨hfew, -⟩ := Scan.overList_narrow hjudge hlimit Nat.one_pos hle records state state
  rw [first]
  generalize ((program.scan (some 1)).overList _ {} records state).1 = outcome at hfew ⊢
  cases outcome with
  | error error => rfl
  | ok found =>
    have htake := Except.ok.inj (hfew found rfl)
    rw [List.take_one] at htake
    exact congrArg Except.ok htake.symm

/-- The events of a query give account of its scan, under the limit of the program or, for the first
match, the limit of one. -/
theorem accounts_of_queries (program : Program) (fields : ρ → Fields)
    (lookup : ρ → Session.Lookup σ) (log : σ → List Event)
    (hpure : ∀ record name s, (lookup record name s).1 = fields record name)
    (hquiet : ∀ record name s, log (lookup record name s).2 = log s)
    (hreport : ∀ event s, log (Reports.report event s) = log s ++ [event])
    (records : List ρ) (state : σ) :
    let verdict := fun record => program.verdict (fields record)
    let all := program.execute lookup records state
    let first := program.first lookup records state
    (∃ evaluated events, log all.2 = log state ++ events ∧
        (program.scan program.limit).Accounts verdict records evaluated all.1 events) ∧
      ∃ evaluated events, log first.2 = log state ++ events ∧
        (program.scan (some 1)).Accounts verdict records evaluated (first.1.map Option.toList)
          events := by
  intro verdict all first
  have hjudge : ∀ record s, (program.judge (lookup record) s).1 = verdict record :=
    fun record s => program.judge_answer (hpure record) s
  have hsilent : ∀ record s, log (program.judge (lookup record) s).2 = log s := by
    intro record s
    have hkeeps : (lookup record).Keeps (log · = log s) :=
      fun name after hafter => (hquiet record name after).trans hafter
    exact program.judge_keeps hkeeps rfl
  constructor
  · exact Scan.overList_accounts _ hreport hsilent hjudge (fun n => limit_pos) records state
  · have hpos : ∀ n, (program.scan (some 1)).limit = some n → 0 < n := by
      rintro _ ⟨⟩
      exact Nat.one_pos
    rw [program.first_map_toList hpure]
    exact Scan.overList_accounts _ hreport hsilent hjudge hpos records state

/-- The second record cannot be evaluated. The query for all matches reports so, and the query for the
first one ends in front of it. -/
theorem accounts_of_queries_late :
    let program := ((on "tasks").whereField "done").compare .eq (.bool true)
    let fields : Value → Fields := fun value _ => .ok value
    let lookup := fun record => (fields record).traced 0
    let records : List Value := [.bool true, .string "late"]
    let all := Trace.events (program.execute lookup records {}).2
    let first := Trace.events (program.first lookup records {}).2
    Event.ofLevel .warn all.toList =
        [.aborted "tasks" 1 (.typeMismatch "done" .exact .bool .string)] ∧
      (Event.ofLevel .trace all.toList).length = 1 ∧
      Event.ofLevel .debug first.toList =
        [.completed "tasks" (Event.ofLevel .trace first.toList).length 1 (some 1)] ∧
      first.toList.countP Event.isMatch = 1 := by
  intro program fields lookup records all first
  obtain ⟨⟨_, events, hall, haborted⟩, _, events', hfirst, hcompleted⟩ :=
    program.accounts_of_queries fields lookup (fun trace => trace.events.toList) (fun _ _ _ => rfl)
      (fun _ _ _ => rfl) (fun _ _ => Array.toList_push) records {}
  obtain rfl : all.toList = events := hall
  obtain rfl : first.toList = events' := hfirst
  obtain ⟨hwarn, -, hposition, -⟩ :=
    haborted.aborted ⟨1, .typeMismatch "done" .exact .bool .string⟩ rfl
  obtain ⟨hdebug, -, -, hmatches, -⟩ := hcompleted.completed [.bool true] rfl
  exact ⟨hwarn, hposition.symm, hdebug, hmatches.symm⟩

end Program

end RecordStore
