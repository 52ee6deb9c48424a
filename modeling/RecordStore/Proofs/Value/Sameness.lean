import RecordStore.Proofs.Session.Answer

/-!
# Operands that are the same

Numbers of different representations are the same when they round to the same double; and that double
is all that a comparison looks at, be it for order, for membership, for an interval or for truth. So
operands that are the same are of one kind and give every test the same answer, or leave it without
one alike.
-/

namespace RecordStore

theorem Extended.eq_of_compare {x y : Extended} (h : x.compare y = some .eq) : x = y := by
  cases x with
  | finite units =>
    cases y with
    | finite others =>
      have heq : Ord.compare units others = .eq := Option.some.inj h
      rw [Int.compare_eq_eq.1 heq]
    | notNumber | negativeInfinity | positiveInfinity => cases h
  | notNumber => cases h
  | negativeInfinity =>
    cases y with
    | negativeInfinity => rfl
    | notNumber | finite | positiveInfinity => cases h
  | positiveInfinity =>
    cases y with
    | positiveInfinity => rfl
    | notNumber | finite | negativeInfinity => cases h

theorem Number.value_eq_of_same {a b : Number} (h : a.same b = true) : a.value = b.value :=
  Extended.eq_of_compare (eq_of_beq h)

/-! ### Operands -/

namespace Operand

/-- Operands that are the same are equal, unless they are numbers, bounds or candidates. -/
theorem same_cases {a b : Operand} (h : a.same b = true) :
    a = b ∨
      (∃ n m, a = number n ∧ b = number m ∧ n.same m = true) ∨
      (∃ n m n' m', a = range n m ∧ b = range n' m' ∧ n.same n' = true ∧ m.same m' = true) ∨
      ∃ items others, a = list items ∧ b = list others ∧ sameAll items others = true := by
  cases a with
  | number n =>
    cases b with
    | number m => exact .inr (.inl ⟨n, m, rfl, rfl, h⟩)
    | _ => cases h
  | range n m =>
    cases b with
    | range n' m' =>
      obtain ⟨hfirst, hsecond⟩ := Bool.and_eq_true_iff.1 h
      exact .inr (.inr (.inl ⟨n, m, n', m', rfl, rfl, hfirst, hsecond⟩))
    | _ => cases h
  | list items =>
    cases b with
    | list others => exact .inr (.inr (.inr ⟨items, others, rfl, rfl, h⟩))
    | _ => cases h
  | null =>
    cases b with
    | null => exact .inl rfl
    | _ => cases h
  | bool =>
    cases b with
    | bool => exact .inl (congrArg bool (eq_of_beq h))
    | _ => cases h
  | char =>
    cases b with
    | char => exact .inl (congrArg char (eq_of_beq h))
    | _ => cases h
  | string =>
    cases b with
    | string => exact .inl (congrArg string (eq_of_beq h))
    | _ => cases h
  | pattern =>
    cases b with
    | pattern => exact .inl (congrArg pattern (eq_of_beq h))
    | _ => cases h
  | truth =>
    cases b with
    | truth => exact .inl (congrArg truth (eq_of_beq h))
    | _ => cases h

theorem kind_eq_of_same {a b : Operand} (h : a.same b = true) : a.kind = b.kind := by
  rcases same_cases h with rfl | ⟨n, m, rfl, rfl, -⟩ | ⟨n, m, n', m', rfl, rfl, -⟩ |
    ⟨items, others, rfl, rfl, -⟩
  · rfl
  · rfl
  · rfl
  · rfl

end Operand

namespace Value

variable (v : Value)

theorem equals_eq_of_same {a b : Operand} (h : a.same b = true) : v.equals a = v.equals b := by
  rcases Operand.same_cases h with rfl | ⟨n, m, rfl, rfl, hnumber⟩ | ⟨n, m, n', m', rfl, rfl, -⟩ |
    ⟨items, others, rfl, rfl, -⟩
  · rfl
  · cases v with
    | number own => simp only [equals, Number.same, Number.compare, Number.value_eq_of_same hnumber]
    | null | bool | char | string => rfl
  · cases v <;> rfl
  · cases v <;> rfl

theorem any_equals_eq_of_sameAll {items others : List Operand}
    (h : Operand.sameAll items others = true) : items.any v.equals = others.any v.equals := by
  induction items generalizing others with
  | nil =>
    cases others with
    | nil => rfl
    | cons other others => cases h
  | cons item items ih =>
    cases others with
    | nil => cases h
    | cons other others =>
      obtain ⟨hitem, hitems⟩ := Bool.and_eq_true_iff.1 h
      rw [List.any_cons, List.any_cons, v.equals_eq_of_same hitem, ih hitems]

theorem test?_eq_of_same {a b : Operand} (h : a.same b = true) (mode : Mode) :
    v.test? a mode = v.test? b mode := by
  rcases Operand.same_cases h with rfl | ⟨n, m, rfl, rfl, hnumber⟩ |
    ⟨n, m, n', m', rfl, rfl, hfirst, hsecond⟩ | ⟨items, others, rfl, rfl, hitems⟩
  · rfl
  · have hvalue := Number.value_eq_of_same hnumber
    cases v with
    | number own => cases mode <;> simp only [test?, order?, Number.compare, hvalue]
    | null | bool | char | string => cases mode <;> rfl
  · have hfirst := Number.value_eq_of_same hfirst
    have hsecond := Number.value_eq_of_same hsecond
    cases v with
    | number own => cases mode <;> simp only [test?, order?, Number.between, hfirst, hsecond]
    | null | bool | char | string => cases mode <;> rfl
  · cases mode with
    | member => exact congrArg some (v.any_equals_eq_of_sameAll hitems)
    | _ => cases v <;> rfl

end Value

end RecordStore
