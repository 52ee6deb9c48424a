import RecordStore.Number.Lemmas
import RecordStore.Program.Basic

/-!
# Building programs

A program that is built step by step has the steps in that order, keeps its target, and has the cap
of the last step that sets one. So the cap that is kept beside the steps says nothing that they do
not say themselves.
-/

namespace RecordStore.Program

@[simp] theorem steps_push (program : Program) (step : Step) :
    (program.push step).steps = program.steps ++ [step] := rfl

@[simp] theorem collection_push (program : Program) (step : Step) :
    (program.push step).collection = program.collection := rfl

@[simp] theorem cap_push (program : Program) (step : Step) :
    (program.push step).cap = (capOf step).or program.cap := rfl

/-- A limit sets the cap that it is made for, as long as there is such a count. -/
theorem capOf_limit {n : Nat} (h : n < 2 ^ 64) :
    capOf ⟨.limit, some (.number (.ofCount n))⟩ = some n := by
  have hcount : (Operand.number (.ofCount n)).count? = some n := Number.toCount?_ofCount h
  simp [capOf, hcount]

theorem steps_foldl_push (program : Program) (steps : List Step) :
    (steps.foldl push program).steps = program.steps ++ steps := by
  induction steps generalizing program with
  | nil => rw [List.foldl_nil, List.append_nil]
  | cons step rest ih =>
    rw [List.foldl_cons, ih, steps_push, List.append_assoc, List.singleton_append]

theorem collection_foldl_push (program : Program) (steps : List Step) :
    (steps.foldl push program).collection = program.collection := by
  induction steps generalizing program with
  | nil => rfl
  | cons step rest ih => rw [List.foldl_cons, ih, collection_push]

/-- The last of the pushed steps that sets a cap decides; without one the cap stays. -/
theorem cap_foldl_push (program : Program) (steps : List Step) :
    (steps.foldl push program).cap = (steps.reverse.findSome? capOf).or program.cap := by
  induction steps generalizing program with
  | nil => rfl
  | cons step rest ih =>
    rw [List.foldl_cons, ih, cap_push, List.reverse_cons, List.findSome?_append,
      List.findSome?_singleton, Option.or_assoc]

end RecordStore.Program
