import RecordStore.Proofs.Session.Rewriting

/-!
# The normal form of programs

Bindings and inverting tests are a convenience. Which field a comparison speaks of stands in the
program, since a binding counts even where everything behind it is skipped; and an inverting test is
the plain one turned around once more. So a program all of whose comparisons have a field and an
operand can be written with connectives, negations and plain comparisons of named fields alone, and
nothing in its evaluation changes.
-/

namespace RecordStore

variable {σ : Type}

/-- The test that asks the same without turning the answer around. -/
def Test.upright : Test → Test
  | ne => eq
  | isNot => is
  | test => test

theorem Test.mode_upright (test : Test) : test.upright.mode = test.mode := by
  cases test <;> rfl

theorem Test.inverts_upright (test : Test) : test.upright.inverts = false := by
  cases test <;> rfl

namespace Step

/-- What is kept of a step that is no comparison: negations, and connectives without their field. -/
def bare? (step : Step) : Option Step :=
  match step.action with
  | .connect connective _ => some ⟨.connect connective none, step.operand⟩
  | .negate => some step
  | _ => none

/-- Whether a step is a connective without a field, a negation, or a comparison of a named field that
does not turn its answer around. -/
def isNormal (step : Step) : Bool :=
  match step.action with
  | .connect _ none | .negate => true
  | .compare test (some _) => !test.inverts
  | _ => false

theorem of_bare? {step kept : Step} (h : step.bare? = some kept) :
    kept.isNormal = true ∧ kept.command.isComparison = false := by
  rw [bare?] at h
  cases haction : step.action with
  | connect connective field =>
    rw [haction] at h
    cases h
    exact ⟨rfl, rfl⟩
  | negate =>
    rw [haction] at h
    cases h
    rw [isNormal, command, haction]
    exact ⟨rfl, rfl⟩
  | bind | compare | limit =>
    rw [haction] at h
    cases h

theorem connective?_bare? (step : Step) : step.bare?.bind connective? = step.connective? := by
  rw [bare?]
  cases haction : step.action with
  | connect | negate | bind | compare | limit => simp [connective?, haction]

theorem negates_bare? (step : Step) : step.bare?.any negates = step.negates := by
  rw [bare?]
  cases haction : step.action with
  | connect | negate | bind | compare | limit => simp [negates, haction]

end Step

namespace Segment

/-- The lead of a segment in normal form, with its negation toggled if the test inverts. -/
def normalLead (s : Segment) : List Step :=
  let kept := s.lead.filterMap Step.bare?
  if s.test.inverts then Step.toggled kept else kept

theorem of_mem_normalLead {s : Segment} {step : Step} (h : step ∈ s.normalLead) :
    step.isNormal = true ∧ step.command.isComparison = false := by
  have hkept : ∀ step ∈ s.lead.filterMap Step.bare?,
      step.isNormal = true ∧ step.command.isComparison = false := by
    intro step hmem
    obtain ⟨_, -, hbare⟩ := List.mem_filterMap.1 hmem
    exact Step.of_bare? hbare
  rw [normalLead] at h
  split at h
  · rcases Step.of_mem_toggled h with hmem | rfl
    · exact hkept step hmem
    · exact ⟨rfl, rfl⟩
  · exact hkept step h

theorem last?_connective?_normalLead (s : Segment) :
    Step.last? Step.connective? s.normalLead = Step.last? Step.connective? s.lead := by
  have hkept : Step.last? Step.connective? (s.lead.filterMap Step.bare?) =
      Step.last? Step.connective? s.lead := by
    rw [Step.last?_eq_getLast?, Step.last?_eq_getLast?, List.filterMap_filterMap]
    simp only [Step.connective?_bare?]
  rw [normalLead]
  split
  · rw [Step.last?_toggled _ Step.connective?_of_negate, hkept]
  · exact hkept

theorem any_negates_normalLead (s : Segment) :
    s.normalLead.any Step.negates = (s.negated ^^ s.test.inverts) := by
  have hkept : (s.lead.filterMap Step.bare?).any Step.negates = s.negated := by
    rw [List.any_filterMap, negated]
    congr 1
    funext step
    rw [← Step.negates_bare? step]
    cases step.bare? <;> rfl
  rw [normalLead]
  split
  · rename_i hinverts
    rw [Step.any_negates_toggled, hkept, hinverts, Bool.xor_true]
  · rename_i hupright
    rw [hkept, eq_false_of_ne_true hupright, Bool.xor_false]

/-- Whether a comparison has a field, be it its own or bound before, and an operand. -/
def isComplete (s : Segment) : Bool := s.field.isSome && s.operand.isSome

end Segment

/-- The rewriting that names the field of every comparison, drops what binds, limits or does nothing,
and toggles the negation of every inverting test instead of inverting. -/
def Rewriting.normal : Rewriting where
  segment s := { s with lead := s.normalLead, test := s.test.upright, named := s.field }
  remainder steps := steps.filterMap Step.bare?
  segment_plain _ _ := fun _ hmem => (Segment.of_mem_normalLead hmem).2
  remainder_plain _ _ := fun _ hmem =>
    let ⟨_, _, hbare⟩ := List.mem_filterMap.1 hmem
    (Step.of_bare? hbare).2

namespace Segment

theorem counterpart_normal {s : Segment} (h : s.isComplete = true) (before : List Step) :
    Counterpart false s { Rewriting.normal.segment s with before := before } := by
  obtain ⟨hfield, hoperand⟩ := Bool.and_eq_true_iff.1 h
  refine .of_question ?_ ?_ rfl s.test.mode_upright ?_ (.inr ⟨hfield, hoperand⟩)
  · intro verdict
    rw [Bool.xor_false, skipped, skipped, ← last?_connective?_normalLead s]
    rfl
  · exact Option.or_of_isSome hfield
  · have hnegated : ({ Rewriting.normal.segment s with before := before } : Segment).negated =
        (s.negated ^^ s.test.inverts) := any_negates_normalLead s
    have hinverts : (Rewriting.normal.segment s).test.inverts = false := s.test.inverts_upright
    rw [hnegated, hinverts]

end Segment

namespace Program

/-- The program in normal form. It has no cap, as none of its steps is a limit. -/
def normal (program : Program) : Program :=
  { collection := program.collection, steps := Rewriting.normal.apply program.steps }

/-- Whether every comparison of a program, skipped or not, has a field and an operand. -/
def isComplete (program : Program) : Bool := (Segment.cut program.steps).all Segment.isComplete

variable {program : Program}

theorem isNormal_of_mem_normal (h : program.isComplete = true) {step : Step}
    (hmem : step ∈ program.normal.steps) : step.isNormal = true := by
  rcases List.mem_append.1 hmem with hmem | hmem
  · obtain ⟨s, hs, hmem⟩ := List.mem_flatMap.1 hmem
    rcases List.mem_append.1 hmem with hmem | hmem
    · exact (Segment.of_mem_normalLead hmem).1
    · obtain ⟨hfield, -⟩ := Bool.and_eq_true_iff.1 (List.all_eq_true.1 h s hs)
      obtain ⟨field, hfield⟩ := Option.isSome_iff_exists.1 hfield
      have hupright := s.test.inverts_upright
      rw [List.mem_singleton.1 hmem]
      simp only [Segment.comparison, Rewriting.normal, Step.isNormal, hfield, hupright,
        Bool.not_false]
  · obtain ⟨_, -, hbare⟩ := List.mem_filterMap.1 hmem
    exact (Step.of_bare? hbare).1

/-- The normal form of a program in which every comparison has a field and an operand consists of
connectives, negations, and comparisons of named fields that do not invert. It looks up the same
names in the same order as the program, and comes to the same verdict or the same failure. -/
theorem judge_normal (h : program.isComplete = true) :
    (∀ step ∈ program.normal.steps, step.isNormal = true) ∧
      ∀ {σ : Type} (lookup : Session.Lookup σ) (state : σ),
        program.normal.judge lookup.noted (state, []) = program.judge lookup.noted (state, []) := by
  refine ⟨fun step hmem => isNormal_of_mem_normal h hmem, fun lookup state => ?_⟩
  have hcounterparts : List.Forall₂ (Segment.Counterpart false) (Segment.cut program.steps)
      (Segment.cut program.normal.steps) := by
    refine Rewriting.normal.forall₂_cut_apply program.steps (K := fun _ _ => True) ?_ ?_ trivial
    · exact fun s hs before _ => Segment.counterpart_normal (List.all_eq_true.1 h s hs) before
    · exact fun _ _ _ => trivial
  have hread := Segment.read_counterparts hcounterparts lookup.noted false (state, [])
  have hid : (fun verdict => verdict ^^ false) = id := funext Bool.xor_false
  rw [hid, Except.map_id] at hread
  rw [judge_eq_read, judge_eq_read]
  exact hread

/-- Both negations in front of the inverting test go, and the field that it speaks of is bound in
front of a comparison that may be skipped. -/
theorem judge_normal_tasks :
    let done := (((on "tasks").limitTo 3).whereField "done").compare .ne (.bool false)
    let late := ((done.connect .or (some "late")).whereCurrent.negate).negate
    let program := ((late.compare .isNot (.truth .true)).connect .and).compare .eq (.bool false)
    let fields : Fields := fun name =>
      if name = "done" then .ok (.bool false)
      else if name = "late" then .ok .null
      else .error (.fieldNotFound "Task" name)
    program.isComplete = true ∧
      program.normal.steps =
        [⟨.negate, none⟩, ⟨.compare .eq (some "done"), some (.bool false)⟩,
          ⟨.connect .or none, none⟩, ⟨.compare .is (some "late"), some (.truth .true)⟩,
          ⟨.connect .and none, none⟩, ⟨.compare .eq (some "late"), some (.bool false)⟩] ∧
      program.judge fields.lookup.noted ((), []) = (.ok false, (), ["done", "late"]) ∧
      program.normal.judge fields.lookup.noted ((), []) = (.ok false, (), ["done", "late"]) := by
  intro done late program fields
  have hcomplete : program.isComplete = true := rfl
  exact ⟨hcomplete, rfl, rfl, (judge_normal hcomplete).2 fields.lookup ()⟩

end Program

end RecordStore
