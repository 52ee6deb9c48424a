import RecordStore.Session.Lemmas

/-!
# Segments

A program falls into segments, each of which ends with a comparison. The steps in front of the
comparison say how it is read: the last connective joins it to the verdict so far, any negation
among them turns it around, and a binding gives it a field, unless it names one of its own. A
binding reaches beyond its segment, which is why a segment also knows all steps before it.

Here a program is cut into its segments, and the segments are read one after the other. Nothing but
the verdict is carried from one to the next.
-/

namespace RecordStore

namespace Step

def connective? (step : Step) : Option Connective :=
  match step.action with
  | .connect connective _ => some connective
  | _ => none

/-- The field that a step binds for the comparisons after it. The field that a comparison names is
its own and is not bound. -/
def bound? (step : Step) : Option String :=
  match step.action with
  | .connect _ field | .bind field => field
  | _ => none

def negates (step : Step) : Bool := step.action == .negate

theorem isComparison_iff (step : Step) :
    step.command.isComparison = true ↔ ∃ test named, step.action = .compare test named := by
  rw [command]
  cases step.action with
  | compare test named => exact ⟨fun _ => ⟨test, named, rfl⟩, fun _ => rfl⟩
  | connect | negate | bind | limit =>
    constructor
    · nofun
    · nofun

def last? {α : Type} (pick : Step → Option α) (steps : List Step) : Option α :=
  steps.reverse.findSome? pick

@[simp] theorem last?_nil {α : Type} (pick : Step → Option α) : last? pick [] = none := rfl

@[simp] theorem last?_concat {α : Type} (pick : Step → Option α) (steps : List Step) (step : Step) :
    last? pick (steps ++ [step]) = (pick step).or (last? pick steps) := by
  rw [last?, List.reverse_append, List.findSome?_append, List.reverse_singleton,
    List.findSome?_singleton, last?]

end Step

/-- A comparison with the steps since the one before it, and with all steps before those. -/
structure Segment where
  before : List Step
  lead : List Step
  test : Test
  named : Option String
  operand : Option Operand

namespace Segment

def comparison (segment : Segment) : Step := ⟨.compare segment.test segment.named, segment.operand⟩

def steps (segment : Segment) : List Step := segment.lead ++ [segment.comparison]

/-- The field that the comparison speaks of: its own, or the one that was bound last. -/
def field (segment : Segment) : Option String :=
  segment.named.or (Step.last? Step.bound? (segment.before ++ segment.lead))

def negated (segment : Segment) : Bool := segment.lead.any Step.negates

/-- Whether the comparison is skipped: its last connective is a conjunction and the verdict so far is
false, or a disjunction and it is true. -/
def skipped (segment : Segment) (verdict : Bool) : Bool :=
  match Step.last? Step.connective? segment.lead with
  | some .and => !verdict
  | some .or => verdict
  | none => false

/-- The field that is looked up when the comparison runs. Without an operand it does not come to
that. -/
def lookedUp? (segment : Segment) : Option String := segment.operand.bind fun _ => segment.field

/-! ### Cutting a program -/

/-- The segments of the steps that follow those before and the lead of the first segment. -/
def cutFrom (before lead : List Step) : List Step → List Segment
  | [] => []
  | step :: rest =>
    match step.action with
    | .compare test named =>
      ⟨before, lead, test, named, step.operand⟩ :: cutFrom (before ++ lead ++ [step]) [] rest
    | _ => cutFrom before (lead ++ [step]) rest

def cut (steps : List Step) : List Segment := cutFrom [] [] steps

/-- What it means that a list of steps falls into segments, with a rest that has no comparison. -/
structure IsCut (before steps : List Step) (segments : List Segment) (rest : List Step) : Prop where
  whole : steps = segments.flatMap Segment.steps ++ rest
  lead_plain : ∀ segment ∈ segments, ∀ step ∈ segment.lead, step.command.isComparison = false
  rest_plain : ∀ step ∈ rest, step.command.isComparison = false
  before_eq : ∀ left segment right, segments = left ++ segment :: right →
    segment.before = before ++ left.flatMap Segment.steps

theorem isCut_plain (before : List Step) {rest : List Step}
    (h : ∀ step ∈ rest, step.command.isComparison = false) : IsCut before rest [] rest := by
  refine ⟨rfl, ?_, h, ?_⟩
  · intro segment hmem
    cases hmem
  · intro left segment right heq
    simp at heq

theorem IsCut.cons {segment : Segment} {steps : List Step} {segments : List Segment}
    {rest : List Step} (h : IsCut (segment.before ++ segment.steps) steps segments rest)
    (hlead : ∀ step ∈ segment.lead, step.command.isComparison = false) :
    IsCut segment.before (segment.steps ++ steps) (segment :: segments) rest := by
  refine ⟨?_, List.forall_mem_cons.2 ⟨hlead, h.lead_plain⟩, h.rest_plain, ?_⟩
  · rw [List.flatMap_cons, List.append_assoc, ← h.whole]
  · intro left other right heq
    cases left with
    | nil =>
      obtain ⟨rfl, -⟩ := List.cons.inj heq
      exact (List.append_nil _).symm
    | cons first left =>
      obtain ⟨rfl, htail⟩ := List.cons.inj heq
      rw [h.before_eq left other right htail, List.flatMap_cons, List.append_assoc]

theorem isCut_cutFrom (before lead steps : List Step)
    (hlead : ∀ step ∈ lead, step.command.isComparison = false) :
    ∃ rest, IsCut before (lead ++ steps) (cutFrom before lead steps) rest := by
  induction steps generalizing before lead with
  | nil =>
    rw [List.append_nil]
    exact ⟨lead, isCut_plain before hlead⟩
  | cons step rest ih =>
    rw [cutFrom]
    split
    · rename_i test named haction
      have hstep : step = ⟨.compare test named, step.operand⟩ := by
        rw [← haction]
      obtain ⟨tail, hcut⟩ := ih (before ++ lead ++ [step]) [] (fun _ hmem => by cases hmem)
      let segment : Segment := ⟨before, lead, test, named, step.operand⟩
      have hsteps : segment.steps = lead ++ [step] := by
        rw [Segment.steps, Segment.comparison, ← hstep]
      have hsegment : IsCut (segment.before ++ segment.steps) rest
          (cutFrom (before ++ lead ++ [step]) [] rest) tail := by
        rw [hsteps, ← List.append_assoc]
        exact hcut
      refine ⟨tail, ?_⟩
      rw [List.append_cons, ← hsteps]
      exact hsegment.cons hlead
    · rename_i hplain
      have hstep : step.command.isComparison = false := by
        refine eq_false_of_ne_true fun hcomparison => ?_
        obtain ⟨test, named, haction⟩ := step.isComparison_iff.1 hcomparison
        exact hplain test named haction
      have hlead' : ∀ other ∈ lead ++ [step], other.command.isComparison = false := by
        intro other hmem
        rcases List.mem_append.1 hmem with hmem | hmem
        · exact hlead other hmem
        · rw [List.mem_singleton.1 hmem]
          exact hstep
      obtain ⟨tail, hcut⟩ := ih before (lead ++ [step]) hlead'
      rw [List.append_assoc, List.singleton_append] at hcut
      exact ⟨tail, hcut⟩

theorem isCut_cut (steps : List Step) : ∃ rest, IsCut [] steps (cut steps) rest :=
  isCut_cutFrom [] [] steps fun _ hmem => by cases hmem

end Segment

end RecordStore
