import RecordStore.Proofs.Scan.Execution

/-!
# Wanting fewer records

A scan that wants fewer records than another ends no later, with the first of those that the other
one finds. So it fails only if the other one fails as well, with the same record, whereas the other
one may fail behind its end. The query for the first match is the narrowest of these scans.

What the records are compared with must not change between the two, but they may run in different
states.
-/

namespace RecordStore

/-- What an answer with one record has to do with the answer that has all of them: it has the first,
and it fails only as the other one fails. -/
structure FirstOf {ε ρ : Type} (one : Except ε (Option ρ)) (many : Except ε (List ρ)) : Prop where
  head : ∀ found, many = .ok found → one = .ok found.head?
  failure : ∀ error, one = .error error → many = .error error

namespace FirstOf

variable {ε ε' ρ : Type}

theorem of_error (error : ε) : FirstOf (.error error : Except ε (Option ρ)) (.error error) := by
  constructor
  · intro found hfound
    cases hfound
  · intro other hother
    cases hother
    rfl

theorem mapError {one : Except ε (Option ρ)} {many : Except ε (List ρ)} (h : FirstOf one many)
    (f : ε → ε') : FirstOf (one.mapError f) (many.mapError f) := by
  constructor
  · intro found hfound
    cases many with
    | error error => cases hfound
    | ok all =>
      cases hfound
      rw [h.head found rfl]
      rfl
  · intro error herror
    cases one with
    | ok record => cases herror
    | error cause =>
      cases herror
      rw [h.failure cause rfl]
      rfl

end FirstOf

namespace Scan

variable {σ ρ : Type} [Reports σ] {judge : ρ → σ → Except EvalError Bool × σ}
  {verdict : ρ → Except EvalError Bool} {scan narrow : Scan} {m : Nat}

theorem overList_narrow (hjudge : ∀ record state, (judge record state).1 = verdict record)
    (hnarrow : narrow.limit = some m) (hpos : 0 < m) (hle : ∀ n, scan.limit = some n → m ≤ n)
    (records : List ρ) (s t : σ) :
    (∀ found, (scan.overList judge {} records s).1 = .ok found →
        (narrow.overList judge {} records t).1 = .ok (found.take m)) ∧
      ∀ error, (narrow.overList judge {} records t).1 = .error error →
        (scan.overList judge {} records s).1 = .error error := by
  have hposNarrow : ∀ n, narrow.limit = some n → 0 < n := by
    intro n hn
    rw [hnarrow] at hn
    cases hn
    exact hpos
  have hposWide : ∀ n, scan.limit = some n → 0 < n :=
    fun n hn => Nat.lt_of_lt_of_le hpos (hle n hn)
  -- What the narrow scan leaves unused of its limit, the wide one leaves unused of its own.
  have hwiden : ∀ {count : Nat}, (∀ n, narrow.limit = some n → count < n) →
      ∀ n, scan.limit = some n → count < n := by
    intro count hroom n hn
    exact Nat.lt_of_lt_of_le (hroom m hnarrow) (hle n hn)
  rcases end_cases verdict records narrow.limit hposNarrow with
    ⟨n, k, hlimit, hnth, hok⟩ | ⟨hok, hroom⟩ | ⟨e, cause, hfirst, hroom⟩
  · rw [hnarrow] at hlimit
    cases hlimit
    rw [overList_filled narrow hjudge hnarrow hnth hok t]
    refine ⟨fun found hfound => ?_, fun error h => by cases h⟩
    rcases end_cases verdict records scan.limit hposWide with
      ⟨n, k', hlimit, hnth', hok'⟩ | ⟨hok', hroom'⟩ | ⟨e, cause, hfirst, hroom'⟩
    · rw [overList_filled scan hjudge hlimit hnth' hok' s] at hfound
      cases hfound
      rw [List.take_take, Nat.min_eq_left (hle n hlimit)]
    · rw [overList_exhausted scan hjudge hok' hroom' s] at hfound
      cases hfound
      rfl
    · rw [overList_failed scan hjudge hfirst hroom' s] at hfound
      cases hfound
  · rw [overList_exhausted narrow hjudge hok hroom t,
      overList_exhausted scan hjudge hok (hwiden hroom) s]
    refine ⟨fun found hfound => ?_, fun error h => by cases h⟩
    cases hfound
    have hlt := hroom m hnarrow
    rw [List.take_of_length_le (Nat.le_of_lt hlt)]
  · rw [overList_failed narrow hjudge hfirst hroom t,
      overList_failed scan hjudge hfirst (hwiden hroom) s]
    refine ⟨fun found hfound => ?_, fun error h => h⟩
    cases hfound

end Scan

namespace Program

variable {σ ρ : Type} [Reports σ] {fields : ρ → Fields} {lookup : ρ → Session.Lookup σ}

theorem firstOf_execute (program : Program)
    (hpure : ∀ record name s, (lookup record name s).1 = fields record name) (records : List ρ)
    (s t : σ) :
    FirstOf (program.first lookup records t).1 (program.execute lookup records s).1 := by
  have hjudge : ∀ record state,
      (program.judge (lookup record) state).1 = program.verdict (fields record) :=
    fun record state => program.judge_answer (hpure record) state
  have hle : ∀ n, (program.scan program.limit).limit = some n → 1 ≤ n := fun n => limit_pos
  have hnarrow : (program.scan (some 1)).limit = some 1 := rfl
  obtain ⟨hok, hfailed⟩ := Scan.overList_narrow hjudge hnarrow Nat.one_pos hle records s t
  constructor
  · intro found hfound
    have hhead := congrArg (Except.map List.head?) (hok found hfound)
    rw [first, hhead, Except.map, List.head?_take, if_neg Nat.one_ne_zero]
  · intro error herror
    refine hfailed error ?_
    simp only [first] at herror
    generalize ((program.scan (some 1)).overList _ {} records t).1 = outcome at herror ⊢
    cases outcome with
    | ok found => cases herror
    | error cause =>
      cases herror
      rfl

end Program

end RecordStore
