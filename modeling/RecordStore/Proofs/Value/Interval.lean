import RecordStore.Proofs.Number.Order
import RecordStore.Proofs.Session.Answer

/-!
# Intervals

An interval is given by two numbers in either order. Which of them is the lower bound is decided by
one comparison, and that comparison says no where a bound is not a number, so that the bounds then
change places. It does not matter: nothing lies between such bounds either way round. Where the
comparison means what it says, transitivity leaves nothing for the other order of the bounds to add.
So an interval is a matter of the two comparisons with its bounds alone.
-/

namespace RecordStore

namespace Number

theorem between_iff {n first second : Number} :
    n.between first second = true ↔
      (first.le n = true ∧ n.le second = true) ∨ (second.le n = true ∧ n.le first = true) := by
  simp only [between, le_eq_value_le]
  -- Bounds in order leave between them the other way round only what is the same as both, and bounds
  -- that are not in order leave nothing between them as they stand.
  split
  · rename_i hordered
    rw [Bool.and_eq_true]
    constructor
    · exact Or.inl
    · rintro (h | ⟨hlow, hhigh⟩)
      · exact h
      · exact ⟨Extended.le_trans hordered hlow, Extended.le_trans hhigh hordered⟩
  · rename_i hreversed
    rw [Bool.and_eq_true]
    constructor
    · exact Or.inr
    · rintro (⟨hlow, hhigh⟩ | h)
      · exact absurd (Extended.le_trans hlow hhigh) hreversed
      · exact h

theorem between_comm (n first second : Number) :
    n.between first second = n.between second first := by
  rw [Bool.eq_iff_iff, between_iff, between_iff]
  exact Or.comm

theorem between_of_notNumber {n first second : Number}
    (h : n.value = .notNumber ∨ first.value = .notNumber ∨ second.value = .notNumber) :
    n.between first second = false := by
  rw [Bool.eq_false_iff, Ne, between_iff]
  simp only [le_eq_value_le]
  rcases h with h | h | h <;> simp [h, Extended.le_notNumber, Extended.notNumber_le]

theorem between_first {first second : Number} (hfirst : first.value ≠ .notNumber)
    (hsecond : second.value ≠ .notNumber) : first.between first second = true := by
  rw [between_iff]
  have hself := Extended.le_self hfirst
  rcases Extended.le_or_le hfirst hsecond with h | h
  · exact .inl ⟨hself, h⟩
  · exact .inr ⟨h, hself⟩

end Number

/-! ### Answers -/

namespace Value

theorem test?_lessThanEqual (n bound : Number) :
    (number n).test? (.number bound) .lessThanEqual = some (n.le bound) := by
  show some ((n.compare bound).any _) = some ((n.compare bound).any _)
  rcases n.compare bound with _ | _ | _ | _ <;> rfl

theorem test?_greaterThanEqual (n bound : Number) :
    (number n).test? (.number bound) .greaterThanEqual = some (bound.le n) := by
  show some ((n.compare bound).any _) = some ((bound.compare n).any _)
  rw [show bound.compare n = _ from Extended.compare_swap n.value bound.value]
  show some ((n.compare bound).any _) = some (((n.compare bound).map _).any _)
  rcases n.compare bound with _ | _ | _ | _ <;> rfl

end Value

namespace Question

/-- An interval holds what lies above one of its bounds and below the other. It does not depend on the
order of the bounds, and holds both of them, unless one of the three is not a number. -/
theorem answer_between (field : String) {v : Value} (hv : v = .null ∨ ∃ n, v = .number n)
    (first second : Number) :
    (∃ aboveFirst belowFirst aboveSecond belowSecond,
      answer ⟨field, .number first, .greaterThanEqual⟩ v = .ok aboveFirst ∧
      answer ⟨field, .number first, .lessThanEqual⟩ v = .ok belowFirst ∧
      answer ⟨field, .number second, .greaterThanEqual⟩ v = .ok aboveSecond ∧
      answer ⟨field, .number second, .lessThanEqual⟩ v = .ok belowSecond ∧
      answer ⟨field, .range first second, .between⟩ v =
        .ok ((aboveFirst && belowSecond) || (aboveSecond && belowFirst))) ∧
    answer ⟨field, .range first second, .between⟩ v =
      answer ⟨field, .range second first, .between⟩ v ∧
    ((∃ n, v = .number n ∧ n.value = .notNumber) ∨ first.value = .notNumber ∨
        second.value = .notNumber →
      answer ⟨field, .range first second, .between⟩ v = .ok false) ∧
    (first.value ≠ .notNumber → second.value ≠ .notNumber →
      answer ⟨field, .range first second, .between⟩ (.number first) = .ok true ∧
      answer ⟨field, .range first second, .between⟩ (.number second) = .ok true) := by
  have hinterval : ∀ n first second, answer ⟨field, .range first second, .between⟩ (.number n) =
      .ok (n.between first second) := fun _ _ _ => rfl
  have hbounds : first.value ≠ .notNumber → second.value ≠ .notNumber →
      answer ⟨field, .range first second, .between⟩ (.number first) = .ok true ∧
      answer ⟨field, .range first second, .between⟩ (.number second) = .ok true := by
    intro hfirst hsecond
    rw [hinterval, hinterval, second.between_comm, Number.between_first hfirst hsecond,
      Number.between_first hsecond hfirst]
    exact ⟨rfl, rfl⟩
  rcases hv with rfl | ⟨n, rfl⟩
  · exact ⟨⟨false, false, false, false, rfl, rfl, rfl, rfl, rfl⟩, rfl, fun _ => rfl, hbounds⟩
  · refine ⟨⟨first.le n, n.le first, second.le n, n.le second, ?_, ?_, ?_, ?_, ?_⟩, ?_, ?_, hbounds⟩
    · exact answer_eq_ok_iff.2 (Value.test?_greaterThanEqual n first)
    · exact answer_eq_ok_iff.2 (Value.test?_lessThanEqual n first)
    · exact answer_eq_ok_iff.2 (Value.test?_greaterThanEqual n second)
    · exact answer_eq_ok_iff.2 (Value.test?_lessThanEqual n second)
    · rw [hinterval]
      apply congrArg
      rw [Bool.eq_iff_iff, Number.between_iff]
      simp only [Bool.or_eq_true, Bool.and_eq_true]
    · rw [hinterval, hinterval, n.between_comm]
    · rintro (⟨m, hm, hvalue⟩ | hvalue)
      · cases hm
        rw [hinterval, Number.between_of_notNumber (.inl hvalue)]
      · rw [hinterval, Number.between_of_notNumber (.inr hvalue)]

/-- Bounds that are the wrong way round are both held; nothing is held by bounds one of which is not a
number. -/
theorem answer_between_ages :
    let adult := Number.integer 18
    let retired := Number.natural 65
    let unknown := Number.double ⟨0x7ff8000000000000⟩
    answer ⟨"age", .range retired adult, .between⟩ (.number retired) = .ok true ∧
      answer ⟨"age", .range retired adult, .between⟩ (.number adult) = .ok true ∧
      answer ⟨"age", .range unknown adult, .between⟩ (.number adult) = .ok false := by
  intro adult retired unknown
  have hretired : retired.value ≠ .notNumber := by decide +kernel
  have hadult : adult.value ≠ .notNumber := by decide +kernel
  have hunknown : unknown.value = .notNumber := by decide +kernel
  obtain ⟨-, -, -, hbounds⟩ := answer_between "age" (v := .null) (.inl rfl) retired adult
  obtain ⟨-, -, hnone, -⟩ := answer_between "age" (.inr ⟨adult, rfl⟩) unknown adult
  obtain ⟨hfirst, hsecond⟩ := hbounds hretired hadult
  exact ⟨hfirst, hsecond, hnone (.inr (.inl hunknown))⟩

end Question

end RecordStore
