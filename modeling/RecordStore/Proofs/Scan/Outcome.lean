import RecordStore.Scan.Basic
import RecordStore.Session.Lemmas

/-!
# How scans end

A scan of records at rest has three ends: the record that makes up the number of wanted matches, the
first record that cannot be evaluated, or the end of the list. Which of them it is depends on the
verdicts on the records alone, and so do the results. How far the scan has come by then shows in the
state around it: `visit` is what becomes of a state when records are evaluated in turn, each once,
and a scan leaves exactly the visit of the records up to its end.

All records in front of the end are passed in the same way, which `overList_append` says once; each
of the three ends then adds one record or none.
-/

namespace RecordStore

/-- The lookup that answers from fixed fields, whatever it notes in the surrounding state. -/
def Fields.observed {σ : Type} (fields : Fields) (note : String → σ → σ) : Session.Lookup σ :=
  fun name state => (fields name, note name state)

theorem Program.judge_observed {σ : Type} (program : Program) (fields : Fields)
    (note : String → σ → σ) (state : σ) :
    (program.judge (fields.observed note) state).1 = program.verdict fields := by
  have hanswer : ∀ name state, (fields.observed note name state).1 = fields name := fun _ _ => rfl
  exact program.judge_answer hanswer state

namespace Scan

variable {σ ρ : Type}

def isHit : Except EvalError Bool → Bool
  | .ok hit => hit
  | .error _ => false

def hits (verdict : ρ → Except EvalError Bool) (records : List ρ) : List ρ :=
  records.filter fun record => isHit (verdict record)

/-- The match number `n`, counted from one, stands at position `k`. -/
structure NthHit (verdict : ρ → Except EvalError Bool) (records : List ρ) (n k : Nat) : Prop where
  hit : records[k]?.map verdict = some (.ok true)
  rank : (hits verdict (records.take k)).length + 1 = n

/-- The first record that cannot be evaluated stands at position `e`. -/
structure FirstFailure (verdict : ρ → Except EvalError Bool) (records : List ρ) (e : Nat)
    (cause : EvalError) : Prop where
  failure : records[e]?.map verdict = some (.error cause)
  before : ∀ record ∈ records.take e, ∃ hit, verdict record = .ok hit

/-- The state after records have been evaluated in turn, the first of them at the given position,
each once and with the report on it. -/
def visit [Reports σ] (scan : Scan) (judge : ρ → σ → Except EvalError Bool × σ)
    (position : Nat) : List ρ → σ → σ
  | [], state => state
  | record :: rest, state =>
    let judged := judge record state
    let event := match judged.1 with
      | .ok hit => Event.evaluated scan.collection position hit
      | .error cause => Event.aborted scan.collection position cause
    visit scan judge (position + 1) rest (Reports.report event judged.2)

/-! ### Positions of matches and failures -/

section Positions

variable {verdict : ρ → Except EvalError Bool} {records : List ρ} {n k e : Nat}
  {cause : EvalError}

theorem hits_append (verdict : ρ → Except EvalError Bool) (front rest : List ρ) :
    hits verdict (front ++ rest) = hits verdict front ++ hits verdict rest :=
  List.filter_append front rest

theorem exists_at {outcome : Except EvalError Bool}
    (h : records[k]?.map verdict = some outcome) :
    ∃ record, verdict record = outcome ∧ (records.take k).length = k ∧
      records.take (k + 1) = records.take k ++ [record] ∧
      records = records.take k ++ record :: records.drop (k + 1) := by
  obtain ⟨record, hrecord, hverdict⟩ := Option.map_eq_some_iff.1 h
  obtain ⟨hlt, hget⟩ := List.getElem?_eq_some_iff.1 hrecord
  refine ⟨record, hverdict, List.length_take_of_le (Nat.le_of_lt hlt), ?_, ?_⟩
  · rw [← hget, List.take_succ_eq_append_getElem hlt]
  · rw [← hget, ← List.drop_eq_getElem_cons hlt, List.take_append_drop]

theorem exists_nthHit (hpos : 0 < n) (hle : n ≤ (hits verdict records).length) :
    ∃ k, NthHit verdict records n k := by
  induction records generalizing n with
  | nil =>
    simp only [hits, List.filter_nil, List.length_nil] at hle
    omega
  | cons record rest ih =>
    by_cases hhit : verdict record = .ok true
    · have hcons : hits verdict (record :: rest) = record :: hits verdict rest := by
        simp [hits, hhit, isHit]
      rw [hcons, List.length_cons] at hle
      rcases Nat.eq_or_lt_of_le hpos with hone | hmore
      · exact ⟨0, by simp [hhit], by simpa [hits] using hone⟩
      · obtain ⟨k, hk⟩ := ih (n := n - 1) (by omega) (by omega)
        refine ⟨k + 1, by simpa using hk.hit, ?_⟩
        have hrank := hk.rank
        have htake : hits verdict ((record :: rest).take (k + 1)) =
            record :: hits verdict (rest.take k) := by
          simp [hits, hhit, isHit]
        rw [htake, List.length_cons]
        omega
    · have hmiss : isHit (verdict record) = false := by
        cases hv : verdict record with
        | error cause => rfl
        | ok hit =>
          rw [hv] at hhit
          simpa [isHit] using hhit
      have hcons : ∀ l, hits verdict (record :: l) = hits verdict l := by
        intro l
        simp [hits, hmiss]
      rw [hcons] at hle
      obtain ⟨k, hk⟩ := ih hpos hle
      refine ⟨k + 1, by simpa using hk.hit, ?_⟩
      rw [List.take_succ_cons, hcons]
      exact hk.rank

theorem exists_firstFailure (h : ¬ ∀ record ∈ records, ∃ hit, verdict record = .ok hit) :
    ∃ e cause, FirstFailure verdict records e cause := by
  induction records with
  | nil => exact absurd (fun _ hmem => by cases hmem) h
  | cons record rest ih =>
    cases hv : verdict record with
    | error cause => exact ⟨0, cause, by simp [hv], fun _ hmem => by cases hmem⟩
    | ok hit =>
      have hrest : ¬ ∀ other ∈ rest, ∃ hit, verdict other = .ok hit := by
        intro hall
        exact h (List.forall_mem_cons.2 ⟨⟨hit, hv⟩, hall⟩)
      obtain ⟨e, cause, he⟩ := ih hrest
      refine ⟨e + 1, cause, by simpa using he.failure, ?_⟩
      rw [List.take_succ_cons]
      exact List.forall_mem_cons.2 ⟨⟨hit, hv⟩, he.before⟩

theorem at_of_take {outcome : Except EvalError Bool}
    (h : (records.take e)[k]?.map verdict = some outcome) :
    k < e ∧ records[k]?.map verdict = some outcome := by
  rcases Nat.lt_or_ge k e with hlt | hge
  · rw [List.getElem?_take_of_lt hlt] at h
    exact ⟨hlt, h⟩
  · rw [List.getElem?_take_eq_none hge] at h
    cases h

theorem NthHit.of_take (h : NthHit verdict (records.take e) n k) :
    k < e ∧ NthHit verdict records n k := by
  obtain ⟨hlt, hhit⟩ := at_of_take h.hit
  have hrank := h.rank
  rw [List.take_take, Nat.min_eq_left (Nat.le_of_lt hlt)] at hrank
  exact ⟨hlt, hhit, hrank⟩

theorem FirstFailure.of_take (h : FirstFailure verdict (records.take k) e cause) :
    e < k ∧ FirstFailure verdict records e cause := by
  obtain ⟨hlt, hfailure⟩ := at_of_take h.failure
  have hbefore := h.before
  rw [List.take_take, Nat.min_eq_left (Nat.le_of_lt hlt)] at hbefore
  exact ⟨hlt, hfailure, hbefore⟩

theorem NthHit.length_hits_take (h : NthHit verdict records n k) :
    (hits verdict (records.take (k + 1))).length = n := by
  obtain ⟨record, hverdict, -, htake, -⟩ := exists_at h.hit
  rw [htake, hits_append, List.length_append, ← h.rank]
  simp [hits, hverdict, isHit]

theorem NthHit.hits_take (h : NthHit verdict records n k) :
    hits verdict (records.take (k + 1)) = (hits verdict records).take n := by
  have hall : hits verdict records =
      hits verdict (records.take (k + 1)) ++ hits verdict (records.drop (k + 1)) := by
    rw [← hits_append, List.take_append_drop]
  rw [hall, List.take_left' h.length_hits_take]

end Positions

/-! ### Passing records -/

section Passing

variable [Reports σ] (scan : Scan) {judge : ρ → σ → Except EvalError Bool × σ}
  {verdict : ρ → Except EvalError Bool}

/-- The tally after records with these verdicts. -/
def passed (verdict : ρ → Except EvalError Bool) (tally : Tally ρ) (records : List ρ) : Tally ρ :=
  records.foldl (fun tally record => tally.add record (isHit (verdict record))) tally

theorem scanned_passed (tally : Tally ρ) (records : List ρ) :
    (passed verdict tally records).scanned = tally.scanned + records.length := by
  induction records generalizing tally with
  | nil => rfl
  | cons record rest ih =>
    have hrest := ih (tally.add record (isHit (verdict record)))
    have hnext : (tally.add record (isHit (verdict record))).scanned = tally.scanned + 1 := rfl
    rw [passed, List.foldl_cons, ← passed, hrest, hnext, List.length_cons]
    omega

theorem matched_passed (verdict : ρ → Except EvalError Bool) (tally : Tally ρ) (records : List ρ) :
    (passed verdict tally records).matched.toList =
      tally.matched.toList ++ hits verdict records := by
  induction records generalizing tally with
  | nil => simp [passed, hits]
  | cons record rest ih =>
    have hrest := ih (tally.add record (isHit (verdict record)))
    rw [passed, List.foldl_cons, ← passed, hrest]
    cases hhit : isHit (verdict record) with
    | true => simp [Tally.add, hits, hhit]
    | false => simp [Tally.add, hits, hhit]

theorem visit_append (judge : ρ → σ → Except EvalError Bool × σ) (position : Nat)
    (front rest : List ρ) (state : σ) :
    scan.visit judge position (front ++ rest) state =
      scan.visit judge (position + front.length) rest (scan.visit judge position front state) := by
  induction front generalizing position state with
  | nil => rfl
  | cons record front ih =>
    rw [List.cons_append, visit, ih, visit, List.length_cons, Nat.add_assoc, Nat.add_comm 1]

theorem consider_ok (hjudge : ∀ record state, (judge record state).1 = verdict record)
    (tally : Tally ρ) {record : ρ} {hit : Bool} (hverdict : verdict record = .ok hit) (state : σ) :
    scan.consider judge tally record state =
      (let next := tally.add record hit
       if hit && scan.limit.any (· ≤ next.matched.size) then .full next else .onward next,
        scan.visit judge tally.scanned [record] state) := by
  have hanswer := (hjudge record state).trans hverdict
  rw [consider, visit, visit]
  rcases hjudged : judge record state with ⟨outcome, after⟩
  rw [hjudged] at hanswer
  cases hanswer
  rfl

theorem consider_error (hjudge : ∀ record state, (judge record state).1 = verdict record)
    (tally : Tally ρ) {record : ρ} {cause : EvalError} (hverdict : verdict record = .error cause)
    (state : σ) :
    scan.consider judge tally record state =
      (.aborted ⟨tally.scanned, cause⟩, scan.visit judge tally.scanned [record] state) := by
  have hanswer := (hjudge record state).trans hverdict
  rw [consider, visit, visit]
  rcases hjudged : judge record state with ⟨outcome, after⟩
  rw [hjudged] at hanswer
  cases hanswer
  rfl

/-- Records that can all be evaluated and do not make up the limit are passed, and the scan goes on
behind them. -/
theorem overList_append (hjudge : ∀ record state, (judge record state).1 = verdict record)
    {front : List ρ} (hok : ∀ record ∈ front, ∃ hit, verdict record = .ok hit) (tally : Tally ρ)
    (hroom : ∀ n, scan.limit = some n → tally.matched.size + (hits verdict front).length < n)
    (rest : List ρ) (state : σ) :
    scan.overList judge tally (front ++ rest) state =
      scan.overList judge (passed verdict tally front) rest
        (scan.visit judge tally.scanned front state) := by
  induction front generalizing tally state with
  | nil => rfl
  | cons record front ih =>
    obtain ⟨⟨hit, hverdict⟩, hfront⟩ := List.forall_mem_cons.1 hok
    have hsize : (tally.add record hit).matched.size + (hits verdict front).length =
        tally.matched.size + (hits verdict (record :: front)).length := by
      cases hit with
      | true => simp [Tally.add, hits, hverdict, isHit]; omega
      | false => simp [Tally.add, hits, hverdict, isHit]
    have hnotFull : (hit && scan.limit.any (· ≤ (tally.add record hit).matched.size)) = false := by
      cases hlimit : scan.limit with
      | none => simp
      | some n =>
        have hlt := hroom n hlimit
        have hgt : ¬ n ≤ (tally.add record hit).matched.size := by omega
        simp [hgt]
    have hnext := ih hfront (tally.add record hit) (fun n hn => by rw [hsize]; exact hroom n hn)
      (scan.visit judge tally.scanned [record] state)
    rw [List.cons_append, overList, consider_ok scan hjudge tally hverdict]
    simp only [hnotFull, Bool.false_eq_true, if_false]
    rw [hnext, passed, passed, List.foldl_cons, hverdict, isHit]
    rw [← List.singleton_append, visit_append]
    rfl

theorem overList_start (hjudge : ∀ record state, (judge record state).1 = verdict record)
    {front : List ρ} (hok : ∀ record ∈ front, ∃ hit, verdict record = .ok hit)
    (hroom : ∀ n, scan.limit = some n → (hits verdict front).length < n) (rest : List ρ)
    (state : σ) :
    scan.overList judge {} (front ++ rest) state =
      scan.overList judge (passed verdict {} front) rest (scan.visit judge 0 front state) := by
  have hroom' : ∀ n, scan.limit = some n →
      ({} : Tally ρ).matched.size + (hits verdict front).length < n := by
    intro n hn
    have hlt := hroom n hn
    simp only [List.size_toArray, List.length_nil]
    omega
  exact overList_append scan hjudge hok {} hroom' rest state

/-! ### The three ends -/

/-- A scan ends with the match that makes up its limit, if no record in front of it fails. -/
theorem overList_filled (hjudge : ∀ record state, (judge record state).1 = verdict record)
    {records : List ρ} {n k : Nat} (hlimit : scan.limit = some n)
    (hnth : NthHit verdict records n k)
    (hok : ∀ record ∈ records.take k, ∃ hit, verdict record = .ok hit) (state : σ) :
    scan.overList judge {} records state =
      (.ok ((hits verdict records).take n),
        Reports.report (.completed scan.collection (k + 1) n scan.limit)
          (scan.visit judge 0 (records.take (k + 1)) state)) := by
  obtain ⟨record, hverdict, hlength, htake, hsplit⟩ := exists_at hnth.hit
  have hrank := hnth.rank
  have hroom : ∀ m, scan.limit = some m → (hits verdict (records.take k)).length < m := by
    intro m hm
    rw [hlimit] at hm
    cases hm
    omega
  have hscanned : (passed verdict {} (records.take k)).scanned = k := by
    rw [scanned_passed, hlength, Nat.zero_add]
  have hlast : ((passed verdict {} (records.take k)).add record true).scanned = k + 1 :=
    congrArg (· + 1) hscanned
  have hmatched : ((passed verdict {} (records.take k)).add record true).matched.toList =
      (hits verdict records).take n := by
    have hpassed := matched_passed verdict {} (records.take k)
    rw [← hnth.hits_take, htake, hits_append]
    simp [Tally.add, hpassed, hits, hverdict, isHit]
  have hsize : ((passed verdict {} (records.take k)).add record true).matched.size = n := by
    rw [← Array.length_toList, hmatched, ← hnth.hits_take, hnth.length_hits_take]
  have hfull : scan.limit.any
      (· ≤ ((passed verdict {} (records.take k)).add record true).matched.size) = true := by
    simp [hlimit, hsize]
  have hpass := overList_start scan hjudge hok hroom (record :: records.drop (k + 1)) state
  rw [← hsplit, overList, consider_ok scan hjudge _ hverdict] at hpass
  simp only [Bool.true_and, hfull, if_true] at hpass
  rw [hpass, finish, hmatched, hsize, hlast, htake, visit_append, hscanned, hlength, Nat.zero_add]

theorem overList_exhausted (hjudge : ∀ record state, (judge record state).1 = verdict record)
    {records : List ρ} (hok : ∀ record ∈ records, ∃ hit, verdict record = .ok hit)
    (hroom : ∀ n, scan.limit = some n → (hits verdict records).length < n) (state : σ) :
    scan.overList judge {} records state =
      (.ok (hits verdict records),
        Reports.report
          (.completed scan.collection records.length (hits verdict records).length scan.limit)
          (scan.visit judge 0 records state)) := by
  have hmatched : (passed verdict {} records).matched.toList = hits verdict records := by
    rw [matched_passed]
    rfl
  have hpass := overList_start scan hjudge hok hroom [] state
  rw [List.append_nil, overList, finish, hmatched, scanned_passed, Nat.zero_add,
    ← Array.length_toList, hmatched] at hpass
  exact hpass

/-- A scan ends with the first record that cannot be evaluated, if the limit is not made up in front
of it. -/
theorem overList_failed (hjudge : ∀ record state, (judge record state).1 = verdict record)
    {records : List ρ} {e : Nat} {cause : EvalError} (hfirst : FirstFailure verdict records e cause)
    (hroom : ∀ n, scan.limit = some n → (hits verdict (records.take e)).length < n) (state : σ) :
    scan.overList judge {} records state =
      (.error ⟨e, cause⟩, scan.visit judge 0 (records.take (e + 1)) state) := by
  obtain ⟨record, hverdict, hlength, htake, hsplit⟩ := exists_at hfirst.failure
  have hscanned : (passed verdict {} (records.take e)).scanned = e := by
    rw [scanned_passed, hlength, Nat.zero_add]
  have hpass := overList_start scan hjudge hfirst.before hroom (record :: records.drop (e + 1)) state
  rw [← hsplit, overList, consider_error scan hjudge _ hverdict] at hpass
  rw [hpass, htake, visit_append, hscanned, hlength, Nat.zero_add]

theorem end_cases (verdict : ρ → Except EvalError Bool) (records : List ρ) (limit : Option Nat)
    (hpos : ∀ n, limit = some n → 0 < n) :
    (∃ n k, limit = some n ∧ NthHit verdict records n k ∧
        ∀ record ∈ records.take k, ∃ hit, verdict record = .ok hit) ∨
      ((∀ record ∈ records, ∃ hit, verdict record = .ok hit) ∧
        ∀ n, limit = some n → (hits verdict records).length < n) ∨
      ∃ e cause, FirstFailure verdict records e cause ∧
        ∀ n, limit = some n → (hits verdict (records.take e)).length < n := by
  by_cases hok : ∀ record ∈ records, ∃ hit, verdict record = .ok hit
  · by_cases hroom : ∀ n, limit = some n → (hits verdict records).length < n
    · exact .inr (.inl ⟨hok, hroom⟩)
    · obtain ⟨n, hn⟩ := Classical.not_forall.1 hroom
      obtain ⟨hlimit, hle⟩ := Classical.not_imp.1 hn
      obtain ⟨k, hnth⟩ := exists_nthHit (hpos n hlimit) (Nat.le_of_not_lt hle)
      exact .inl ⟨n, k, hlimit, hnth, fun record hmem => hok record (List.mem_of_mem_take hmem)⟩
  · obtain ⟨e, cause, hfirst⟩ := exists_firstFailure hok
    by_cases hroom : ∀ n, limit = some n → (hits verdict (records.take e)).length < n
    · exact .inr (.inr ⟨e, cause, hfirst, hroom⟩)
    · obtain ⟨n, hn⟩ := Classical.not_forall.1 hroom
      obtain ⟨hlimit, hle⟩ := Classical.not_imp.1 hn
      obtain ⟨k, hk⟩ := exists_nthHit (hpos n hlimit) (Nat.le_of_not_lt hle)
      obtain ⟨hlt, hnth⟩ := hk.of_take
      have hsub : records.take k ⊆ records.take e :=
        List.take_subset_take_left records (Nat.le_of_lt hlt)
      exact .inl ⟨n, k, hlimit, hnth, fun record hmem => hfirst.before record (hsub hmem)⟩

end Passing

end Scan

end RecordStore
