import RecordStore.Proofs.Session.Rewriting

/-!
# Dual programs

The dual of a program swaps its connectives and toggles the negation of every comparison. Once the
first comparison has been made the verdicts of the two are opposite, and so a connective of the one
skips a comparison exactly where the other connective of the other one does. Before the first
comparison both verdicts are false, and no longer opposite; that is why no connective may stand
there.
-/

namespace RecordStore

variable {σ : Type}

def Connective.dual : Connective → Connective
  | and => or
  | or => and

namespace Step

/-- The step with the other connective, if it has one. -/
def dual (step : Step) : Step :=
  match step.action with
  | .connect connective field => ⟨.connect connective.dual field, step.operand⟩
  | _ => step

variable (step : Step)

theorem connective?_dual : step.dual.connective? = step.connective?.map Connective.dual := by
  rw [dual]
  cases haction : step.action with
  | connect connective field => simp only [connective?, haction, Option.map_some]
  | negate | bind | compare | limit => simp only [connective?, haction, Option.map_none]

theorem bound?_dual : step.dual.bound? = step.bound? := by
  rw [dual]
  cases haction : step.action with
  | connect connective field => simp only [bound?, haction]
  | negate | bind | compare | limit => rfl

theorem negates_dual : step.dual.negates = step.negates := by
  rw [dual]
  cases haction : step.action with
  | connect connective field =>
    rw [negates, negates, haction]
    rfl
  | negate | bind | compare | limit => rfl

theorem isComparison_dual : step.dual.command.isComparison = step.command.isComparison := by
  rw [dual]
  cases haction : step.action with
  | connect connective field =>
    rw [command, command, haction]
    rfl
  | negate | bind | compare | limit => rfl

theorem plain_map_dual {steps : List Step} (h : Plain steps) : Plain (steps.map dual) := by
  intro other hmem
  obtain ⟨step, hstep, rfl⟩ := List.mem_map.1 hmem
  rw [isComparison_dual]
  exact h step hstep

end Step

/-- The rewriting that swaps the connectives and toggles the negation of every comparison. Behind the
last comparison there is nothing to toggle. -/
def Rewriting.dual : Rewriting where
  segment s := { s with lead := Step.toggled (s.lead.map Step.dual) }
  remainder steps := steps.map Step.dual
  segment_plain _ h := Step.plain_toggled (Step.plain_map_dual h)
  remainder_plain _ h := Step.plain_map_dual h

/-- The program with its connectives swapped and the negation of every comparison toggled. Its limits
stay, and so does its cap. -/
def Program.dual (program : Program) : Program :=
  { program with steps := Rewriting.dual.apply program.steps }

namespace Segment

/-! ### Dual segments -/

theorem last?_connective?_dual (s : Segment) :
    Step.last? Step.connective? (Rewriting.dual.segment s).lead =
      (Step.last? Step.connective? s.lead).map Connective.dual := by
  have hpick : (Step.connective? ∘ Step.dual) =
      fun step => step.connective?.map Connective.dual := funext Step.connective?_dual
  have hmap : (s.lead.filterMap fun step => step.connective?.map Connective.dual) =
      (s.lead.filterMap Step.connective?).map Connective.dual := List.map_filterMap.symm
  rw [Rewriting.dual, Step.last?_toggled _ Step.connective?_of_negate, Step.last?_eq_getLast?,
    Step.last?_eq_getLast?, List.filterMap_map, hpick, hmap, List.getLast?_map]

theorem last?_bound?_dual (s : Segment) :
    Step.last? Step.bound? (Rewriting.dual.segment s).lead = Step.last? Step.bound? s.lead := by
  have hpick : (Step.bound? ∘ Step.dual) = Step.bound? := funext Step.bound?_dual
  rw [Rewriting.dual, Step.last?_toggled _ Step.bound?_of_negate, Step.last?_eq_getLast?,
    Step.last?_eq_getLast?, List.filterMap_map, hpick]

theorem any_negates_dual (s : Segment) :
    (Rewriting.dual.segment s).lead.any Step.negates = !s.lead.any Step.negates := by
  have hpick : (Step.negates ∘ Step.dual) = Step.negates := funext Step.negates_dual
  rw [Rewriting.dual, Step.any_negates_toggled, List.any_map, hpick]

/-- A segment and its dual skip for opposite verdicts and settle opposite verdicts, as long as the
same field is bound before both. -/
theorem counterpart_dual (s : Segment) {before : List Step}
    (hbefore : Step.last? Step.bound? s.before = Step.last? Step.bound? before) :
    Counterpart true s { Rewriting.dual.segment s with before := before } := by
  refine .of_question ?_ ?_ rfl rfl ?_ (.inl rfl)
  · intro verdict
    rw [skipped, last?_connective?_dual, skipped]
    cases Step.last? Step.connective? s.lead with
    | none => rfl
    | some connective => cases connective <;> cases verdict <;> rfl
  · rw [field, Step.last?_append, last?_bound?_dual, ← hbefore, ← Step.last?_append]
    rfl
  · rw [negated, any_negates_dual, ← negated, Bool.xor_true, Bool.not_xor]
    rfl

theorem last?_bound?_steps (s : Segment) :
    Step.last? Step.bound? s.steps = Step.last? Step.bound? s.lead := by
  rw [steps, Step.last?_concat]
  rfl

theorem forall₂_dual (steps : List Step) :
    List.Forall₂ (fun segment other =>
        Counterpart true segment other ∧ other.comparison = segment.comparison)
      (cut steps) (cut (Rewriting.dual.apply steps)) := by
  refine Rewriting.dual.forall₂_cut_apply steps (K := fun before before' =>
    Step.last? Step.bound? before = Step.last? Step.bound? before') ?_ ?_ rfl
  · exact fun s _ before' hbefore => ⟨counterpart_dual s hbefore, rfl⟩
  · intro s before' hbefore
    rw [Step.last?_append, Step.last?_append, hbefore, last?_bound?_steps, last?_bound?_steps,
      last?_bound?_dual]

/-! ### The first comparison -/

theorem exists_cut_eq_cons {steps : List Step}
    (h : ∃ step ∈ steps, step.command.isComparison = true) :
    ∃ first rest, cut steps = first :: rest ∧
      first.lead = steps.takeWhile (!·.command.isComparison) := by
  have hplain : Step.Plain (steps.takeWhile (!·.command.isComparison)) := by
    intro step hmem
    simpa using List.all_eq_true.1 List.all_takeWhile step hmem
  have hwhole : steps.takeWhile (!·.command.isComparison) ++
      steps.dropWhile (!·.command.isComparison) = steps := List.takeWhile_append_dropWhile
  cases hbehind : steps.dropWhile (!·.command.isComparison) with
  | nil =>
    rw [hbehind, List.append_nil] at hwhole
    obtain ⟨step, hmem, hcomparison⟩ := h
    have hnone := hplain step (by rwa [hwhole])
    rw [hcomparison] at hnone
    cases hnone
  | cons step rest =>
    have hfirst := List.head?_dropWhile_not (!·.command.isComparison) steps
    rw [hbehind] at hfirst
    obtain ⟨test, named, haction⟩ := step.isComparison_iff.1 (by simpa using hfirst)
    have hcut : cut steps =
        cutFrom [] (steps.takeWhile (!·.command.isComparison)) (step :: rest) := by
      have hskim := cutFrom_append_plain [] [] (steps.dropWhile (!·.command.isComparison)) hplain
      rwa [hwhole, hbehind, List.nil_append] at hskim
    rw [hcut, cutFrom, haction]
    exact ⟨_, _, rfl, rfl⟩

/-- The verdict before a segment that is never skipped does not matter. -/
theorem read_of_open {segment : Segment} (h : ∀ verdict, segment.skipped verdict = false)
    (rest : List Segment) (lookup : Session.Lookup σ) (verdict other : Bool) (state : σ) :
    read lookup verdict (segment :: rest) state = read lookup other (segment :: rest) state := by
  simp only [read, h, Bool.false_eq_true, if_false]

theorem course_of_open {segment : Segment} (h : ∀ verdict, segment.skipped verdict = false)
    (rest : List Segment) (lookup : Session.Lookup σ) (verdict other : Bool) (state : σ) :
    course lookup verdict (segment :: rest) state =
      course lookup other (segment :: rest) state := by
  simp only [course, h, Bool.false_eq_true, if_false]

end Segment

namespace Program

/-- There is a comparison, and no connective stands in front of the first one. -/
structure OpensPlainly (program : Program) : Prop where
  comparison : ∃ step ∈ program.steps, step.command.isComparison = true
  no_connective : ∀ step ∈ program.steps.takeWhile (!·.command.isComparison),
    step.connective? = none

variable {program : Program}

/-- The dual of a program that opens plainly begins with a comparison that is never skipped. -/
theorem OpensPlainly.exists_cut_dual (h : program.OpensPlainly) :
    ∃ first rest, Segment.cut program.dual.steps = first :: rest ∧
      ∀ verdict, first.skipped verdict = false := by
  obtain ⟨segment, segments, hcut, hlead⟩ := Segment.exists_cut_eq_cons h.comparison
  have hopen : ∀ verdict, segment.skipped verdict = false := by
    have hnone : Step.last? Step.connective? segment.lead = none := by
      rw [Step.last?, List.findSome?_eq_none_iff, hlead]
      exact fun step hmem => h.no_connective step (List.mem_reverse.1 hmem)
    exact fun verdict => by rw [Segment.skipped, hnone]
  have hdual := Segment.forall₂_dual program.steps
  rw [hcut] at hdual
  obtain ⟨first, rest, hfirst, -, hrest⟩ := List.forall₂_cons_left_iff.1 hdual
  refine ⟨first, rest, hrest, fun verdict => ?_⟩
  -- Counterparts skip for opposite verdicts, and the first segment of the program skips for neither.
  have hskips := hfirst.1.skips (verdict ^^ true)
  rwa [hopen, Bool.xor_assoc, Bool.xor_self, Bool.xor_false] at hskips

theorem course_dual (h : program.OpensPlainly) (lookup : Session.Lookup σ) (state : σ) :
    program.dual.course lookup state = program.course lookup state := by
  obtain ⟨first, rest, hcut, hopen⟩ := h.exists_cut_dual
  have hcourse :=
    Segment.course_counterparts (Segment.forall₂_dual program.steps) lookup false state
  have hdual : Segment.cut (Rewriting.dual.apply program.steps) = first :: rest := hcut
  -- The counterparts are read from the opposite verdict, the dual program from the same one.
  rw [hdual] at hcourse
  rw [course_eq_course_cut, course_eq_course_cut, ← hcourse, hcut]
  exact Segment.course_of_open hopen rest lookup false (false ^^ true) state

theorem judge_dual (h : program.OpensPlainly) (lookup : Session.Lookup σ) (state : σ) :
    program.dual.judge lookup state =
      ((program.judge lookup state).1.map not, (program.judge lookup state).2) := by
  obtain ⟨first, rest, hcut, hopen⟩ := h.exists_cut_dual
  have hread := Segment.read_counterparts
    ((Segment.forall₂_dual program.steps).imp fun _ _ hboth => hboth.1) lookup false state
  have hdual : Segment.cut (Rewriting.dual.apply program.steps) = first :: rest := hcut
  have hnot : (fun verdict => verdict ^^ true) = not := funext Bool.xor_true
  rw [hdual, hnot] at hread
  rw [judge_eq_read, judge_eq_read, hcut,
    Segment.read_of_open hopen rest lookup false (false ^^ true) state]
  exact hread

end Program

end RecordStore
