import RecordStore.Proofs.Finder.Binding

/-!
# What limits stand for

A limit is given as a number, in whichever representation, and stands for a count if the number is a
whole one that is not negative and not too large. Where the number is an integer nothing is lost:
the count is its exact value. A double is compared with the largest count too, but with what that is
as a double, and this is `2 ^ 64`, one more than the count itself. So there is one number, `2 ^ 64` as
a double, that passes although no count is its value, and it is cut down to the largest.

Both ways to set a limit take the count as it is. A limit step without one is kept among the steps
and leaves the cap alone, and a finder whose last argument has none is refused.
-/

namespace RecordStore

/-! ### Exact values -/

def Extended.whole (n : Int) : Extended := .finite (n * unitsPerOne)

theorem Extended.whole_eq_whole_iff {n m : Int} : whole n = whole m ↔ n = m := by
  have hpos := unitsPerOne_pos
  rw [whole, whole, finite.injEq]
  constructor
  · intro h
    exact Int.eq_of_mul_eq_mul_right (Int.ne_of_gt hpos) h
  · rintro rfl
    rfl

namespace Number

/-- The value of a number, not rounded to a double. -/
def exactValue : Number → Extended
  | integer n => .whole n.toInt
  | natural n => .whole n.toNat
  | double x => x.value

/-- A number counts as its exact value, up to the largest count, and as the largest count if it is
the one behind. -/
def CountsAs (n : Number) (k : Nat) : Prop :=
  (n.exactValue = .whole k ∧ k < 2 ^ 64) ∨ (n.exactValue = .whole (2 ^ 64 : Nat) ∧ k = 2 ^ 64 - 1)

theorem toCount?_double_eq_some_iff {x : Binary64} {k : Nat} :
    (double x).toCount? = some k ↔ (double x).CountsAs k := by
  rw [toCount?, Binary64.toCount?_eq_some_iff]
  constructor
  · rintro ⟨whole, hvalue, hle, rfl⟩
    rcases Nat.lt_or_eq_of_le hle with hlt | rfl
    · left
      rw [Nat.min_eq_left (by omega)]
      exact ⟨hvalue, hlt⟩
    · right
      exact ⟨hvalue, rfl⟩
  · rintro (⟨hvalue, hlt⟩ | ⟨hvalue, rfl⟩)
    · exact ⟨k, hvalue, by omega, by omega⟩
    · exact ⟨2 ^ 64, hvalue, by omega, by omega⟩

theorem toCount?_eq_some_iff_countsAs {n : Number} {k : Nat} :
    n.toCount? = some k ↔ n.CountsAs k := by
  cases n with
  | integer n =>
    have hhigh := n.toInt_lt
    rw [CountsAs, exactValue, Extended.whole_eq_whole_iff, Extended.whole_eq_whole_iff, toCount?]
    split
    · rw [Option.some.injEq]
      omega
    · simp only [reduceCtorEq, false_iff]
      omega
  | natural n =>
    have hhigh := n.toNat_lt
    rw [CountsAs, exactValue, Extended.whole_eq_whole_iff, Extended.whole_eq_whole_iff, toCount?,
      Option.some.injEq]
    omega
  | double x => exact toCount?_double_eq_some_iff

/-- Every number but the one behind the largest count stands for its exact value alone. -/
theorem exact_iff (n : Number) :
    (∀ k : Nat, n.toCount? = some k ↔ n.exactValue = .whole k ∧ k < 2 ^ 64) ↔
      n.exactValue ≠ .whole (2 ^ 64 : Nat) := by
  constructor
  · intro h hbehind
    obtain ⟨hlast, -⟩ := (h (2 ^ 64 - 1)).1 (toCount?_eq_some_iff_countsAs.2 (.inr ⟨hbehind, rfl⟩))
    rw [hbehind, Extended.whole_eq_whole_iff] at hlast
    omega
  · intro h k
    rw [toCount?_eq_some_iff_countsAs, CountsAs]
    exact or_iff_left fun hbehind => h hbehind.1

end Number

theorem Operand.count?_eq_some_iff {operand : Operand} {k : Nat} :
    operand.count? = some k ↔ ∃ n, operand = .number n ∧ n.CountsAs k := by
  rw [count?, Option.bind_eq_some_iff]
  simp only [Number.toCount?_eq_some_iff_countsAs]
  constructor
  · rintro ⟨n, hnumber, hcounts⟩
    cases operand with
    | number m =>
      cases hnumber
      exact ⟨_, rfl, hcounts⟩
    | _ => cases hnumber
  · rintro ⟨n, rfl, hcounts⟩
    exact ⟨n, rfl, hcounts⟩

theorem Operand.count?_eq_none_iff {operand : Operand} :
    operand.count? = none ↔ ∀ n k, operand = .number n → ¬ n.CountsAs k := by
  rw [Option.eq_none_iff_forall_ne_some]
  constructor
  · intro h n k hnumber hcounts
    exact h k (count?_eq_some_iff.2 ⟨n, hnumber, hcounts⟩)
  · intro h k hcount
    obtain ⟨n, hnumber, hcounts⟩ := count?_eq_some_iff.1 hcount
    exact h n k hnumber hcounts

/-! ### Setting a limit -/

theorem Program.cap_push_limit (program : Program) (operand : Option Operand) :
    (program.push ⟨.limit, operand⟩).cap = (operand.bind Operand.count?).or program.cap := rfl

namespace Finder

variable {collection name : String} {finder : Finder} {arguments : List Operand} {operand : Operand}

theorem exists_bind_of_count? (h : read collection name = .ok finder)
    (hlength : arguments.length = finder.arity)
    (hlimit : finder.limitArgument? arguments = some operand)
    {k : Nat} (hcount : operand.count? = some k) :
    ∃ program, finder.bind arguments = .ok program ∧ program.cap = some k := by
  have hcounts : ∀ argument, finder.limitArgument? arguments = some argument →
      argument.count? ≠ none := by
    intro argument hargument
    rw [hlimit] at hargument
    cases hargument
    rw [hcount]
    nofun
  obtain ⟨program, hbind, -, -, hcap⟩ := exists_bind_eq_ok h hlength hcounts
  refine ⟨program, hbind, ?_⟩
  rw [hcap, hlimit]
  exact hcount

/-- A number stands for a count exactly when that is its exact value, but for the one number
`2 ^ 64`, which stands for the count in front of it. A limit step sets the cap to what its operand
stands for, and so does the last argument of a finder with a limit. Where the operand stands for no
count, the step leaves the cap as it was, and the finder is refused. -/
theorem limits_by_exact_value (n : Number) :
    (∀ k : Nat, n.toCount? = some k ↔
      (n.exactValue = .whole k ∧ k < 2 ^ 64) ∨
        (n.exactValue = .whole (2 ^ 64 : Nat) ∧ k = 2 ^ 64 - 1)) ∧
    ((∀ k : Nat, n.toCount? = some k ↔ n.exactValue = .whole k ∧ k < 2 ^ 64) ↔
      n.exactValue ≠ .whole (2 ^ 64 : Nat)) ∧
    (∀ (program : Program) (operand : Option Operand),
      let pushed := program.push ⟨.limit, operand⟩
      (∀ n k, operand = some (.number n) → n.CountsAs k → pushed.cap = some k) ∧
        ((∀ n k, operand = some (.number n) → ¬ n.CountsAs k) → pushed.cap = program.cap)) ∧
    ∀ (collection name : String) (finder : Finder) (arguments : List Operand) (operand : Operand),
      read collection name = .ok finder → arguments.length = finder.arity →
      finder.limitArgument? arguments = some operand →
      (∀ n k, operand = .number n → n.CountsAs k →
        ∃ program, finder.bind arguments = .ok program ∧ program.cap = some k) ∧
        ((∀ n k, operand = .number n → ¬ n.CountsAs k) →
          finder.bind arguments = .error (.fault (.badLimit name))) := by
  refine ⟨fun k => Number.toCount?_eq_some_iff_countsAs, n.exact_iff, ?_, ?_⟩
  · intro program operand pushed
    have hcap : pushed.cap = (operand.bind Operand.count?).or program.cap :=
      program.cap_push_limit operand
    constructor
    · rintro n k rfl hcounts
      rw [hcap, Option.bind_some, Operand.count?_eq_some_iff.2 ⟨n, rfl, hcounts⟩, Option.some_or]
    · intro hnone
      have hcount : operand.bind Operand.count? = none := by
        rw [Option.bind_eq_none_iff]
        rintro operand rfl
        apply Operand.count?_eq_none_iff.2
        rintro n k rfl
        exact hnone n k rfl
      rw [hcap, hcount, Option.none_or]
  · intro collection name finder arguments operand hread hlength hlimit
    constructor
    · intro n k hnumber hcounts
      have hcount := Operand.count?_eq_some_iff.2 ⟨n, hnumber, hcounts⟩
      exact exists_bind_of_count? hread hlength hlimit hcount
    · intro hnone
      exact bind_of_refused hread hlength hlimit (Operand.count?_eq_none_iff.2 hnone)

/-- Three is a count as a double as well, and two and a half is none. -/
theorem limits_by_exact_value_doubles :
    let three := Number.double ⟨0x4008000000000000⟩
    let uneven := Number.double ⟨0x4004000000000000⟩
    let program := (Program.on "people").push ⟨.limit, some (.number three)⟩
    let finder : Finder := ⟨"people", "findByNameLimit", .many, [.compare .eq "name", .limit]⟩
    three.exactValue = .whole 3 ∧
      program.cap = some 3 ∧
      (program.push ⟨.limit, some (.number uneven)⟩).cap = some 3 ∧
      (∃ bound, finder.bind [.string "Ann", .number three] = .ok bound ∧ bound.cap = some 3) ∧
      finder.bind [.string "Ann", .number uneven] =
        .error (.fault (.badLimit "findByNameLimit")) := by
  intro three uneven program finder
  obtain ⟨-, -, hpush, hbind⟩ := limits_by_exact_value three
  have hthree : three.exactValue = .whole 3 := by decide +kernel
  have hcounts : three.CountsAs 3 := .inl ⟨hthree, by decide⟩
  have hnone : ∀ k, ¬ uneven.CountsAs k := by
    intro k hk
    have hcountless : uneven.toCount? = none := by decide +kernel
    have hsome := ((limits_by_exact_value uneven).1 k).2 hk
    rw [hcountless] at hsome
    cases hsome
  have hread : read "people" "findByNameLimit" = .ok finder := by decide
  have hlast : ∀ operand, finder.limitArgument? [.string "Ann", operand] = some operand :=
    fun _ => if_pos (by decide)
  have hcap : program.cap = some 3 := (hpush _ _).1 three 3 rfl hcounts
  refine ⟨hthree, hcap, ?_, ?_, ?_⟩
  · rw [← hcap]
    apply (hpush program (some (.number uneven))).2
    rintro n k ⟨⟩
    exact hnone k
  · exact (hbind _ _ _ _ _ hread rfl (hlast _)).1 three 3 rfl hcounts
  · apply (hbind _ _ _ _ _ hread rfl (hlast _)).2
    rintro n k ⟨⟩
    exact hnone k

/-- Just behind the largest count there is a number that stands for a count without being one. -/
theorem not_exact_behind_last :
    let behind := Number.double ⟨0x43F0000000000000⟩
    behind.exactValue = .whole (2 ^ 64 : Nat) ∧ behind.toCount? = some (2 ^ 64 - 1) ∧
      ¬ ∀ (n : Number) (k : Nat),
        n.toCount? = some k ↔ n.exactValue = .whole k ∧ k < 2 ^ 64 := by
  intro behind
  have hvalue : behind.exactValue = .whole (2 ^ 64 : Nat) := by decide +kernel
  have hcount : behind.toCount? = some (2 ^ 64 - 1) := by decide +kernel
  exact ⟨hvalue, hcount, fun h => behind.exact_iff.1 (h behind) hvalue⟩

end Finder

end RecordStore
