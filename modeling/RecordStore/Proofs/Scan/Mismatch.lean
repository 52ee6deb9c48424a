import RecordStore.Proofs.Scan.Preservation
import RecordStore.Proofs.Session.Typing

/-!
# Mismatches

A comparison fails for one reason only: the mode has no answer for the two kinds. The failure says
so in full, with the mode that was asked for, and it goes through the session and the scan
unchanged, except that the scan adds the position of the record.

That a scan comes to a record is said by `Reaches`, one record at a time, with whatever the lookups
and the reports make of the state meanwhile.
-/

namespace RecordStore

variable {σ ρ : Type}

/-! ### Comparisons -/

namespace Question

variable {q : Question} {v : Value}

/-- There is no answer to the question. -/
def Fails (q : Question) (v : Value) : Prop := ∃ error, q.answer v = .error error

theorem answer_error {error : EvalError} (h : q.answer v = .error error) :
    error = .typeMismatch q.field q.mode q.operand.kind v.kind :=
  (answer_eq_error_iff.1 h).2

theorem Fails.answer_eq (h : q.Fails v) :
    q.answer v = .error (.typeMismatch q.field q.mode q.operand.kind v.kind) := by
  obtain ⟨error, herror⟩ := h
  rw [herror, answer_error herror]

/-- Whether a question has an answer is a matter of the two kinds. -/
theorem fails_iff : q.Fails v ↔ ¬q.mode.answers v.kind q.operand.kind = true := by
  rw [← Value.isSome_test?, Option.not_isSome_iff_eq_none, Fails]
  constructor
  · rintro ⟨error, herror⟩
    exact (answer_eq_error_iff.1 herror).1
  · intro h
    exact ⟨_, answer_eq_error_iff.2 ⟨h, rfl⟩⟩

end Question

/-- The kinds that a value and an operand can both have, but for null. -/
def Kind.plain : List Kind := [.bool, .number, .char, .string]

theorem Value.kind_mem_plain {v : Value} (h : v.kind ≠ .null) : v.kind ∈ Kind.plain := by
  cases v with
  | null => exact absurd rfl h
  | bool | number | char | string => simp [Value.kind, Kind.plain]

namespace Mode

variable {v : Value} {operand : Kind}

theorem answers_order {mode : Mode}
    (hmode : mode ∈ [Mode.exact, .lessThan, .greaterThan, .lessThanEqual, .greaterThanEqual])
    (hvalue : v.kind ≠ .null) (hoperand : operand ≠ .null) :
    mode.answers v.kind operand = true ↔ ∃ kind ∈ Kind.plain, v.kind = kind ∧ operand = kind := by
  have hsame : mode.answers v.kind operand = true ↔ v.kind = operand := by
    simp only [List.mem_cons, List.not_mem_nil, or_false] at hmode
    rcases hmode with rfl | rfl | rfl | rfl | rfl <;> simp [answers, hvalue, hoperand]
  rw [hsame]
  constructor
  · exact fun heq => ⟨v.kind, Value.kind_mem_plain hvalue, rfl, heq.symm⟩
  · rintro ⟨kind, -, hkind, rfl⟩
    exact hkind

theorem answers_pattern (hvalue : v.kind ≠ .null) :
    Mode.pattern.answers v.kind operand = true ↔ v.kind = .string ∧ operand = .pattern := by
  simp [answers, hvalue]

theorem answers_between (hvalue : v.kind ≠ .null) :
    Mode.between.answers v.kind operand = true ↔ v.kind = .number ∧ operand = .range := by
  simp [answers, hvalue, and_comm]

end Mode

/-! ### Programs -/

namespace Program

/-- The evaluation of a program comes to a comparison that is not skipped, and finds the value of
the field. -/
def ComesTo (program : Program) (lookup : Session.Lookup σ) (state : σ) (test : Test)
    (field : String) (operand : Operand) (v : Value) : Prop :=
  ∃ before named after s now,
    program.steps = before ++ ⟨.compare test named, some operand⟩ :: after ∧
      Session.replay lookup {} before state = (.ok s, now) ∧
      s.skip = false ∧ named.or s.field = some field ∧ (lookup field now).1 = .ok v

theorem judge_of_comesTo {program : Program} {lookup : Session.Lookup σ} {state : σ} {test : Test}
    {field : String} {operand : Operand} {v : Value}
    (h : program.ComesTo lookup state test field operand v)
    (hfails : Question.Fails ⟨field, operand, test.mode⟩ v) :
    (program.judge lookup state).1 =
      .error (.typeMismatch field test.mode operand.kind v.kind) := by
  obtain ⟨before, named, after, s, now, hsteps, hbefore, hskip, hfield, hvalue⟩ := h
  have hstep : s.step ⟨.compare test named, some operand⟩ =
      .asks ⟨field, operand, test.mode⟩ test.inverts := by
    simp [Session.step, Session.compare, hskip, hfield]
  have hadvance : (s.advance lookup ⟨.compare test named, some operand⟩ now).1 =
      .error (.typeMismatch field test.mode operand.kind v.kind) := by
    simp only [Session.advance, hstep, hvalue]
    rw [Except.bind, hfails.answer_eq]
    rfl
  rw [judge, hsteps, Session.replay_append, hbefore]
  simp only [Session.replay]
  rcases hafter : s.advance lookup ⟨.compare test named, some operand⟩ now with ⟨outcome, last⟩
  rw [hafter] at hadvance
  cases hadvance
  rfl

end Program

/-! ### Scans -/

namespace Scan

variable [Reports σ]

/-- The places that a scan comes to: its start, and the one behind each record that is evaluated and
does not make up the limit. -/
inductive Reaches (scan : Scan) (fetch : Nat → σ → Option ρ)
    (judge : ρ → σ → Except EvalError Bool × σ) (start : σ) : Tally ρ → σ → Prop
  | start : Reaches scan fetch judge start {} start
  | pass {tally : Tally ρ} {record : ρ} {hit : Bool} {now after : σ}
      (reached : Reaches scan fetch judge start tally now)
      (found : fetch tally.scanned now = some record)
      (judged : judge record now = (.ok hit, after))
      (room : hit = true → ∀ n, scan.limit = some n → tally.matched.size + 1 < n) :
      Reaches scan fetch judge start (tally.add record hit)
        (Reports.report (.evaluated scan.collection tally.scanned hit) after)

variable {scan : Scan} {fetch : Nat → σ → Option ρ} {judge : ρ → σ → Except EvalError Bool × σ}
  {start now after : σ} {tally : Tally ρ} {record : ρ}

theorem consider_pass {hit : Bool} (hjudge : judge record now = (.ok hit, after))
    (hroom : hit = true → ∀ n, scan.limit = some n → tally.matched.size + 1 < n) :
    scan.consider judge tally record now =
      (.onward (tally.add record hit),
        Reports.report (.evaluated scan.collection tally.scanned hit) after) := by
  have hopen : (hit && scan.limit.any (· ≤ (tally.add record hit).matched.size)) = false := by
    cases hit with
    | false => rfl
    | true =>
      have hsize : (tally.add record true).matched.size = tally.matched.size + 1 :=
        Array.size_push record
      cases hlimit : scan.limit with
      | none => rfl
      | some n =>
        have hlt := hroom rfl n hlimit
        simp [hsize, hlt]
  simp only [consider, hjudge, hopen, Bool.false_eq_true, if_false]

/-- From a place that it reaches, a scan goes on as if it started there. -/
theorem Reaches.overPositions_eq (h : scan.Reaches fetch judge start tally now) (bound : Nat) :
    scan.overPositions fetch judge (tally.scanned + bound) {} start =
      scan.overPositions fetch judge bound tally now := by
  induction h generalizing bound with
  | start => rw [Nat.zero_add]
  | @pass tally record hit now after _ found judged room ih =>
    -- The record that is passed counts as scanned, so the bound behind it is less by one.
    have hnext : (tally.add record hit).scanned + bound = tally.scanned + (bound + 1) :=
      Nat.add_right_comm tally.scanned 1 bound
    rw [hnext, ih (bound + 1), overPositions, found]
    simp only [consider_pass judged room]

theorem Reaches.overPositions_error (h : scan.Reaches fetch judge start tally now)
    (hfetch : fetch tally.scanned now = some record) {cause : EvalError}
    (hjudge : (judge record now).1 = .error cause) {bound : Nat} (hbound : tally.scanned < bound) :
    (scan.overPositions fetch judge bound {} start).1 = .error ⟨tally.scanned, cause⟩ := by
  obtain ⟨rest, rfl⟩ := Nat.exists_eq_add_of_lt hbound
  rw [Nat.add_assoc, h.overPositions_eq, overPositions, hfetch]
  rcases hjudged : judge record now with ⟨outcome, after⟩
  rw [hjudged] at hjudge
  cases hjudge
  simp only [consider, hjudged]

theorem overList_eq_overPositions (scan : Scan) (judge : ρ → σ → Except EvalError Bool × σ)
    (records : List ρ) (start : σ) :
    scan.overList judge {} records start =
      scan.overPositions (fun position _ => records[position]?) judge records.length {} start := by
  have hturns : scan.AtTurns judge (fun _ => True) {} records start :=
    atTurns_of_keeps (fun _ _ _ => trivial) (fun _ _ _ => trivial) scan {} records trivial
  have hbound : records.length ≤ ({} : Tally ρ).scanned + records.length :=
    Nat.le_add_left _ _
  exact (overPositions_eq_overList scan records.length {} hbound
    (hturns.imp fun _ _ _ => rfl)).symm

end Scan

namespace Program

variable [Reports σ]

/-- A scan of a program comes to the record at a position, and there to a comparison. -/
def MeetsAt (program : Program) (limit : Option Nat) (fetch : Nat → σ → Option ρ)
    (lookup : ρ → Session.Lookup σ) (start : σ) (position : Nat) (test : Test) (field : String)
    (operand : Operand) (v : Value) : Prop :=
  ∃ tally now record,
    (program.scan limit).Reaches fetch (fun record => program.judge (lookup record)) start tally
        now ∧
      tally.scanned = position ∧ fetch position now = some record ∧
      program.ComesTo (lookup record) now test field operand v

end Program

/-- When comparisons fail and what they report. Membership and truth depend on the operand alone.
Next to no null, the modes that order decides need both sides to be of one plain kind, a pattern is
for strings and an interval for numbers. Every failure names the field, the mode that was asked for
and the two kinds, and a scan that comes to one, under whatever limit, ends with it and the position
of the record. -/
theorem mismatch_by_kinds (field : String) (operand : Operand) (v : Value) :
    let question := fun mode : Mode => (⟨field, operand, mode⟩ : Question)
    ((question .member).Fails v ↔ operand.kind ≠ .list) ∧
      ((question .truth).Fails v ↔ operand.kind ≠ .truth) ∧
      (v.kind ≠ .null → operand.kind ≠ .null →
        (∀ mode ∈ [Mode.exact, .lessThan, .greaterThan, .lessThanEqual, .greaterThanEqual],
            (question mode).Fails v ↔
              ¬∃ kind ∈ Kind.plain, v.kind = kind ∧ operand.kind = kind) ∧
          ((question .pattern).Fails v ↔ ¬(v.kind = .string ∧ operand.kind = .pattern)) ∧
          ((question .between).Fails v ↔ ¬(v.kind = .number ∧ operand.kind = .range))) ∧
      (∀ mode error, (question mode).answer v = .error error →
        error = .typeMismatch field mode operand.kind v.kind) ∧
      ∀ {σ ρ : Type} [Reports σ] (program : Program) (limit : Option Nat)
        (lookup : ρ → Session.Lookup σ) (start : σ) (position : Nat) (test : Test),
        (question test.mode).Fails v →
          let scan := program.scan limit
          let judge := fun record => program.judge (lookup record)
          let failure := ScanError.mk position (.typeMismatch field test.mode operand.kind v.kind)
          (∀ fetch bound,
              program.MeetsAt limit fetch lookup start position test field operand v →
              position < bound →
              (scan.overPositions fetch judge bound {} start).1 = .error failure) ∧
            ∀ records : List ρ,
              program.MeetsAt limit (fun i _ => records[i]?) lookup start position test field
                operand v →
              (scan.overList judge {} records start).1 = .error failure := by
  intro question
  refine ⟨?_, ?_, fun hvalue hoperand => ⟨fun mode hmode => ?_, ?_, ?_⟩, ?_, ?_⟩
  · rw [Question.fails_iff, Mode.answers, beq_iff_eq]
  · rw [Question.fails_iff, Mode.answers, beq_iff_eq]
  · rw [Question.fails_iff, Mode.answers_order hmode hvalue hoperand]
  · rw [Question.fails_iff, Mode.answers_pattern hvalue]
  · rw [Question.fails_iff, Mode.answers_between hvalue]
  · exact fun mode error herror => Question.answer_error herror
  · intro σ ρ _ program limit lookup start position test hfails scan judge failure
    have hpositions : ∀ fetch bound,
        program.MeetsAt limit fetch lookup start position test field operand v →
        position < bound →
        (scan.overPositions fetch judge bound {} start).1 = .error failure := by
      rintro fetch bound ⟨tally, now, record, hreaches, rfl, hfetch, hcomes⟩ hbound
      exact hreaches.overPositions_error hfetch (Program.judge_of_comesTo hcomes hfails) hbound
    refine ⟨hpositions, fun records hmeets => ?_⟩
    have hbound : position < records.length := by
      obtain ⟨tally, now, record, -, -, hfetch, -⟩ := hmeets
      exact (List.getElem?_eq_some_iff.1 hfetch).1
    rw [Scan.overList_eq_overPositions]
    exact hpositions _ records.length hmeets hbound

/-- A match is passed under a limit of two, then a name is compared with a character. -/
theorem mismatch_by_kinds_behind_match :
    let bound := Operand.char 'k'
    let name := Value.string "kim"
    let program := (Program.on "people").compareField "initial" .ge bound
    let lookup : Value → Session.Lookup (Array Event) := fun value _ events => (.ok value, events)
    let records := [.char 'm', name]
    Question.Fails ⟨"initial", bound, .greaterThanEqual⟩ name ∧
      program.MeetsAt (some 2) (fun i _ => records[i]?) lookup #[] 1 .ge "initial" bound name ∧
      ((program.scan (some 2)).overList (fun record => program.judge (lookup record)) {} records
        #[]).1 =
        .error ⟨1, .typeMismatch "initial" .greaterThanEqual .char .string⟩ := by
  intro bound name program lookup records
  obtain ⟨-, -, hplain, -, hscan⟩ := mismatch_by_kinds "initial" bound name
  have hfails : Question.Fails ⟨"initial", bound, .greaterThanEqual⟩ name := by
    refine ((hplain (by decide) (by decide)).1 .greaterThanEqual (by decide)).2 ?_
    rintro ⟨kind, -, rfl, hkind⟩
    cases hkind
  have hmatch : (program.scan (some 2)).Reaches (fun i _ => records[i]?)
      (fun record => program.judge (lookup record)) #[] (Tally.add {} (.char 'm') true)
      (Reports.report (.evaluated "people" 0 true) #[]) := by
    refine .pass .start rfl rfl fun _ n hlimit => ?_
    cases hlimit
    decide
  have hcomes : ∀ events, program.ComesTo (lookup name) events .ge "initial" bound name :=
    fun events => ⟨[], some "initial", [], {}, events, rfl, rfl, rfl, rfl, rfl⟩
  have hmeets : program.MeetsAt (some 2) (fun i _ => records[i]?) lookup #[] 1 .ge "initial" bound
      name := ⟨_, _, name, hmatch, rfl, rfl, hcomes _⟩
  exact ⟨hfails, hmeets, (hscan program (some 2) lookup #[] 1 .ge hfails).2 records hmeets⟩

end RecordStore
