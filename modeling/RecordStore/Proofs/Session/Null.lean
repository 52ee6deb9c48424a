import RecordStore.Proofs.Session.Answer

/-!
# Comparisons with null

Every mode has a rule of its own for null. The modes that order decides take it on either side: the
order is then undefined, which none of them accepts but the exact one, and that only where both sides
are null. Pattern and interval are not so even. A pattern is compared with a null value whatever it
is, but a null in its place is an operand of the wrong kind; and an interval has to be one, even for a
value that is null.
-/

namespace RecordStore

variable {v : Value} {operand : Operand}

theorem Value.order?_of_null (h : v = .null ∨ operand = .null) : v.order? operand = some none := by
  rcases h with rfl | rfl
  · rfl
  · cases v <;> rfl

theorem Value.test?_exact_of_null (h : v = .null ∨ operand = .null) :
    v.test? operand .exact = some (v.kind == .null && operand.kind == .null) := by
  rcases h with rfl | rfl
  · cases operand <;> rfl
  · cases v <;> rfl

theorem Value.test?_pattern_of_null (h : v = .null ∨ operand = .null) :
    v.test? operand .pattern = if v.kind = .null then some false else none := by
  rcases h with rfl | rfl
  · rfl
  · cases v <;> rfl

/-- Next to null only an interval has an answer, and only for a value that is null. -/
theorem Value.test?_between_of_null (h : v = .null ∨ operand = .null) :
    v.test? operand .between =
      if v.kind = .null ∧ operand.kind = .range then some false else none := by
  rcases h with rfl | rfl
  · cases operand <;> rfl
  · cases v <;> rfl

namespace Question

theorem answer_eq_ite {q : Question} {fits : Prop} [Decidable fits] {verdict : Bool}
    (h : v.test? q.operand q.mode = if fits then some verdict else none) :
    q.answer v =
      if fits then .ok verdict
      else .error (.typeMismatch q.field q.mode q.operand.kind v.kind) := by
  by_cases hfits : fits
  · rw [if_pos hfits] at h ⊢
    exact answer_eq_ok_iff.2 h
  · rw [if_neg hfits] at h ⊢
    exact answer_eq_error_iff.2 ⟨h, rfl⟩

/-- With null on one side at least, the modes that order decides answer no, but for the exact one when
both sides are null. A pattern is answered only for a value that is null, and an interval only for
such a value and where the operand is one; what else comes next to null under these two modes is a
mismatch of the kinds. -/
theorem answer_of_null (field : String) (h : v = .null ∨ operand = .null) :
    (∀ mode ∈ [Mode.lessThan, .greaterThan, .lessThanEqual, .greaterThanEqual],
        answer ⟨field, operand, mode⟩ v = .ok false) ∧
      answer ⟨field, operand, .exact⟩ v = .ok (v.kind == .null && operand.kind == .null) ∧
      answer ⟨field, operand, .pattern⟩ v =
        (if v.kind = .null then .ok false
          else .error (.typeMismatch field .pattern operand.kind v.kind)) ∧
      answer ⟨field, operand, .between⟩ v =
        if v.kind = .null ∧ operand.kind = .range then .ok false
        else .error (.typeMismatch field .between operand.kind v.kind) := by
  refine ⟨fun mode hmode => ?_, ?_, answer_eq_ite (Value.test?_pattern_of_null h),
    answer_eq_ite (Value.test?_between_of_null h)⟩
  · have hordering : v.test? operand mode =
        (v.order? operand).map fun order => order.any mode.admits := by
      simp only [List.mem_cons, List.not_mem_nil, or_false] at hmode
      rcases hmode with rfl | rfl | rfl | rfl
      · rfl
      · rfl
      · rfl
      · rfl
    rw [Value.order?_of_null h] at hordering
    exact answer_eq_ok_iff.2 hordering
  · exact answer_eq_ok_iff.2 (Value.test?_exact_of_null h)

/-- A name is compared with a pattern that is null, which is no answer but a mismatch. -/
theorem answer_of_null_name :
    let name := Value.string "Ann"
    (name = .null ∨ Operand.null = .null) ∧
      answer ⟨"name", .null, .lessThan⟩ name = .ok false ∧
      answer ⟨"name", .null, .exact⟩ name = .ok false ∧
      answer ⟨"name", .null, .pattern⟩ name =
        .error (.typeMismatch "name" .pattern .null .string) := by
  intro name
  have hnull : name = .null ∨ Operand.null = .null := .inr rfl
  obtain ⟨hordering, hexact, hpattern, -⟩ := answer_of_null "name" hnull
  exact ⟨hnull, hordering .lessThan List.mem_cons_self, hexact, hpattern⟩

/-- Null on one side is not always answered with no. -/
theorem not_answer_false_of_null :
    ¬∀ (field : String) (v : Value) (operand : Operand), v = .null ∨ operand = .null →
      (∀ mode ∈ [Mode.lessThan, .greaterThan, .lessThanEqual, .greaterThanEqual, .pattern, .between],
          answer ⟨field, operand, mode⟩ v = .ok false) ∧
        answer ⟨field, operand, .exact⟩ v = .ok (v.kind == .null && operand.kind == .null) := by
  intro h
  have hpattern := (h "name" (.string "Ann") .null (.inr rfl)).1 .pattern (by simp)
  cases hpattern

end Question

end RecordStore
