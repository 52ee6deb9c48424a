import Mathlib.Data.List.Forall2
import RecordStore.Proofs.Session.Course

/-!
# Rewriting programs segment by segment

A rewriting puts another segment in the place of each segment of a program, and other steps in the
place of those behind the last comparison. As long as it adds no comparison and drops none, the
rewritten program falls into just the segments that were put in. So two programs can be compared
segment by segment: where each segment skips when its counterpart does and settles the verdict as its
counterpart does, the readings agree throughout. The verdicts may also be opposite all the way.
-/

namespace RecordStore

variable {σ : Type}

namespace Step

def Plain (steps : List Step) : Prop := ∀ step ∈ steps, step.command.isComparison = false

theorem last?_eq_getLast? {α : Type} (pick : Step → Option α) (steps : List Step) :
    last? pick steps = (steps.filterMap pick).getLast? := by
  rw [List.getLast?_filterMap, last?]

theorem last?_append {α : Type} (pick : Step → Option α) (first second : List Step) :
    last? pick (first ++ second) = (last? pick second).or (last? pick first) := by
  rw [last?, List.reverse_append, List.findSome?_append, last?, last?]

end Step

namespace Segment

/-! ### Cutting segments that follow one another -/

theorem cutFrom_append_plain (before lead rest : List Step) {plain : List Step}
    (h : Step.Plain plain) :
    cutFrom before lead (plain ++ rest) = cutFrom before (lead ++ plain) rest := by
  induction plain generalizing lead with
  | nil => rw [List.nil_append, List.append_nil]
  | cons step plain ih =>
    obtain ⟨hstep, hplain⟩ := List.forall_mem_cons.1 h
    rw [List.cons_append, cutFrom]
    split
    · rename_i test named haction
      rw [step.isComparison_iff.2 ⟨test, named, haction⟩] at hstep
      cases hstep
    · rw [ih _ hplain, List.append_assoc, List.singleton_append]

theorem cutFrom_plain (before lead : List Step) {plain : List Step} (h : Step.Plain plain) :
    cutFrom before lead plain = [] := by
  have hcut := cutFrom_append_plain before lead [] h
  rwa [List.append_nil] at hcut

theorem cutFrom_segment (before : List Step) (segment : Segment) (h : Step.Plain segment.lead)
    (rest : List Step) :
    cutFrom before [] (segment.steps ++ rest) =
      { segment with before := before } :: cutFrom (before ++ segment.steps) [] rest := by
  rw [steps, List.append_assoc, cutFrom_append_plain before [] _ h, List.singleton_append,
    List.nil_append, ← List.append_assoc]
  rfl

theorem IsCut.cons_inv {before steps : List Step} {segment : Segment} {segments : List Segment}
    {rest : List Step} (h : IsCut before steps (segment :: segments) rest) :
    segment.before = before ∧
      IsCut (before ++ segment.steps) (segments.flatMap Segment.steps ++ rest) segments rest := by
  have hbefore := h.before_eq [] segment segments rfl
  rw [List.flatMap_nil, List.append_nil] at hbefore
  refine ⟨hbefore, rfl, ?_, h.rest_plain, ?_⟩
  · exact fun other hmem => h.lead_plain other (List.mem_cons_of_mem _ hmem)
  · intro left other right heq
    rw [h.before_eq (segment :: left) other right (congrArg (segment :: ·) heq),
      List.flatMap_cons, List.append_assoc]

theorem IsCut.cutFrom_eq {before steps rest : List Step} {segments : List Segment}
    (h : IsCut before steps segments rest) : cutFrom before [] steps = segments := by
  induction segments generalizing before steps with
  | nil =>
    have hwhole := h.whole
    rw [List.flatMap_nil, List.nil_append] at hwhole
    rw [hwhole, cutFrom_plain before [] h.rest_plain]
  | cons segment segments ih =>
    obtain ⟨rfl, hrest⟩ := h.cons_inv
    have hlead := h.lead_plain segment List.mem_cons_self
    rw [h.whole, List.flatMap_cons, List.append_assoc, cutFrom_segment _ segment hlead, ih hrest]

/-- The steps behind the last comparison. -/
def remainder (steps : List Step) : List Step :=
  steps.drop ((cut steps).flatMap Segment.steps).length

theorem IsCut.remainder_eq {steps rest : List Step} {segments : List Segment}
    (h : IsCut [] steps segments rest) : remainder steps = rest :=
  calc remainder steps = (segments.flatMap Segment.steps ++ rest).drop
        (segments.flatMap Segment.steps).length := by rw [remainder, cut, h.cutFrom_eq, ← h.whole]
    _ = rest := List.drop_left

theorem isCut_remainder (steps : List Step) : IsCut [] steps (cut steps) (remainder steps) := by
  obtain ⟨rest, hcut⟩ := isCut_cut steps
  rwa [hcut.remainder_eq]

/-! ### Counterparts -/

/-- Two segments that skip for the same verdicts and settle the same verdict, except that both are
opposite if the second is turned. -/
structure Counterpart (turned : Bool) (segment other : Segment) : Prop where
  skips : ∀ verdict, other.skipped (verdict ^^ turned) = segment.skipped verdict
  settles : ∀ {σ : Type} (lookup : Session.Lookup σ) (state : σ),
    other.settle lookup state =
      ((segment.settle lookup state).1.map (· ^^ turned), (segment.settle lookup state).2)

variable {turned : Bool} {segments others : List Segment}

/-- Segments whose comparisons ask the same of the same field are counterparts, if the negations in
front and in the tests together turn the one as often as the other, or once more. Only a comparison
that lacks its field or its operand shows its command. -/
theorem Counterpart.of_question {segment other : Segment}
    (hskips : ∀ verdict, other.skipped (verdict ^^ turned) = segment.skipped verdict)
    (hfield : other.field = segment.field) (hoperand : other.operand = segment.operand)
    (hmode : other.test.mode = segment.test.mode)
    (hparity : (other.negated ^^ other.test.inverts) =
      ((segment.negated ^^ segment.test.inverts) ^^ turned))
    (hcommand : other.comparison.command = segment.comparison.command ∨
      (segment.field.isSome = true ∧ segment.operand.isSome = true)) :
    Counterpart turned segment other := by
  refine ⟨hskips, fun lookup state => ?_⟩
  rw [settle, settle, hfield, hoperand, hmode]
  cases hnamed : segment.field with
  | none =>
    rcases hcommand with hcommand | ⟨hsome, -⟩
    · simp only [hcommand, Except.map]
    · rw [hnamed] at hsome
      cases hsome
  | some field =>
    cases hwith : segment.operand with
    | none =>
      rcases hcommand with hcommand | ⟨-, hsome⟩
      · simp only [hcommand, Except.map]
      · rw [hwith] at hsome
        cases hsome
    | some operand =>
      have hturn : ∀ fulfilled, ((fulfilled ^^ other.negated) ^^ other.test.inverts) =
          (((fulfilled ^^ segment.negated) ^^ segment.test.inverts) ^^ turned) := by
        intro fulfilled
        rw [Bool.xor_assoc, hparity, ← Bool.xor_assoc, ← Bool.xor_assoc]
      simp only [hturn]
      cases (lookup field state).1.bind (Question.answer ⟨field, operand, segment.test.mode⟩) with
      | error error => rfl
      | ok fulfilled => rfl

/-- Reading counterparts comes to the same outcome, turned if they are, and to the same state. -/
theorem read_counterparts (h : List.Forall₂ (Counterpart turned) segments others)
    (lookup : Session.Lookup σ) (verdict : Bool) (state : σ) :
    let reading := read lookup verdict segments state
    let turnedReading := read lookup (verdict ^^ turned) others state
    (turnedReading.outcome, turnedReading.state) =
      (reading.outcome.map (· ^^ turned), reading.state) := by
  induction h generalizing verdict state with
  | nil => rfl
  | @cons segment other segments others hcounterpart _ ih =>
    simp only [read, hcounterpart.skips, hcounterpart.settles]
    split
    · exact ih verdict state
    · rcases segment.settle lookup state with ⟨error | next, after⟩
      · rfl
      · exact ih next after

/-- Reading counterparts with the same comparisons comes to the same of them and skips the same. -/
theorem course_counterparts
    (h : List.Forall₂ (fun segment other =>
      Counterpart turned segment other ∧ other.comparison = segment.comparison) segments others)
    (lookup : Session.Lookup σ) (verdict : Bool) (state : σ) :
    course lookup (verdict ^^ turned) others state = course lookup verdict segments state := by
  induction h generalizing verdict state with
  | nil => rfl
  | @cons segment other segments others hboth _ ih =>
    obtain ⟨hcounterpart, hcomparison⟩ := hboth
    simp only [course, hcounterpart.skips, hcounterpart.settles, hcomparison]
    congr 1
    split
    · exact ih verdict state
    · rcases segment.settle lookup state with ⟨error | next, after⟩
      · rfl
      · exact ih next after

end Segment

/-! ### Rewritings -/

/-- What becomes of a segment, whatever is before it, and of the steps behind the last comparison. -/
structure Rewriting where
  segment : Segment → Segment
  remainder : List Step → List Step
  segment_plain : ∀ s, Step.Plain s.lead → Step.Plain (segment s).lead
  remainder_plain : ∀ steps, Step.Plain steps → Step.Plain (remainder steps)

namespace Rewriting

/-- The rewritten segments one after the other, and the rewritten rest. -/
def apply (r : Rewriting) (steps : List Step) : List Step :=
  (Segment.cut steps).flatMap (fun s => (r.segment s).steps) ++
    r.remainder (Segment.remainder steps)

variable {R : Segment → Segment → Prop} {K : List Step → List Step → Prop}

theorem forall₂_cutFrom (r : Rewriting) {before : List Step} (before' : List Step)
    {steps : List Step} {segments : List Segment} {rest : List Step}
    (hcut : Segment.IsCut before steps segments rest)
    (hR : ∀ s ∈ segments, ∀ before', K s.before before' → R s { r.segment s with before := before' })
    (hK : ∀ s before', K s.before before' →
      K (s.before ++ s.steps) (before' ++ (r.segment s).steps))
    (hbefore : K before before') :
    List.Forall₂ R segments (Segment.cutFrom before' []
      (segments.flatMap (fun s => (r.segment s).steps) ++ r.remainder rest)) := by
  induction segments generalizing before before' steps with
  | nil =>
    rw [List.flatMap_nil, List.nil_append,
      Segment.cutFrom_plain before' [] (r.remainder_plain rest hcut.rest_plain)]
    exact .nil
  | cons segment segments ih =>
    obtain ⟨rfl, hcut'⟩ := hcut.cons_inv
    have hlead : Step.Plain (r.segment segment).lead :=
      r.segment_plain segment (hcut.lead_plain segment List.mem_cons_self)
    rw [List.flatMap_cons, List.append_assoc, Segment.cutFrom_segment before' _ hlead]
    refine .cons (hR segment List.mem_cons_self before' hbefore) ?_
    exact ih _ hcut' (fun s hmem => hR s (List.mem_cons_of_mem _ hmem)) (hK segment before' hbefore)

/-- The segments of the rewritten program are related to those of the program one by one, if each is
to what it becomes. What a relation asks of the steps before the two must hold at the start and last
from segment to segment. -/
theorem forall₂_cut_apply (r : Rewriting) (steps : List Step)
    (hR : ∀ s ∈ Segment.cut steps, ∀ before', K s.before before' →
      R s { r.segment s with before := before' })
    (hK : ∀ s before', K s.before before' →
      K (s.before ++ s.steps) (before' ++ (r.segment s).steps))
    (hstart : K [] []) :
    List.Forall₂ R (Segment.cut steps) (Segment.cut (r.apply steps)) :=
  r.forall₂_cutFrom [] (Segment.isCut_remainder steps) hR hK hstart

end Rewriting

/-! ### Toggling a negation -/

namespace Step

def negation : Step := ⟨.negate, none⟩

/-- Steps without the negations that are among them, or with one more at the end if there are none.
-/
def toggled (lead : List Step) : List Step :=
  if lead.any negates then lead.filter (!·.negates) else lead ++ [negation]

variable (lead : List Step)

theorem any_negates_toggled : (toggled lead).any negates = !lead.any negates := by
  rw [toggled]
  split
  · rename_i hany
    rw [hany, Bool.not_true, List.any_eq_false]
    intro step hmem
    simpa using (List.mem_filter.1 hmem).2
  · rename_i hnone
    rw [List.any_append, eq_false_of_ne_true hnone]
    rfl

theorem filterMap_toggled {α : Type} {pick : Step → Option α}
    (h : ∀ step, step.action = .negate → pick step = none) :
    (toggled lead).filterMap pick = lead.filterMap pick := by
  rw [toggled]
  split
  · rw [List.filterMap_filter]
    congr 1
    funext step
    cases hnegates : step.negates with
    | false => rfl
    | true => exact (h step (eq_of_beq hnegates)).symm
  · have hnegation : pick negation = none := h negation rfl
    rw [List.filterMap_append, List.filterMap_cons_none hnegation, List.filterMap_nil,
      List.append_nil]

theorem last?_toggled {α : Type} {pick : Step → Option α}
    (h : ∀ step, step.action = .negate → pick step = none) :
    last? pick (toggled lead) = last? pick lead := by
  rw [last?_eq_getLast?, last?_eq_getLast?, filterMap_toggled lead h]

theorem connective?_of_negate (step : Step) (h : step.action = .negate) :
    step.connective? = none := by
  rw [connective?, h]

theorem bound?_of_negate (step : Step) (h : step.action = .negate) : step.bound? = none := by
  rw [bound?, h]

variable {lead}

theorem of_mem_toggled {step : Step} (h : step ∈ toggled lead) : step ∈ lead ∨ step = negation := by
  rw [toggled] at h
  split at h
  · exact .inl (List.mem_filter.1 h).1
  · exact (List.mem_append.1 h).imp_right List.mem_singleton.1

theorem plain_toggled (h : Plain lead) : Plain (toggled lead) := by
  intro step hmem
  rcases of_mem_toggled hmem with hmem | rfl
  · exact h step hmem
  · rfl

end Step

end RecordStore
