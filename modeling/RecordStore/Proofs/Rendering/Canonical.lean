import RecordStore.Proofs.Rendering.Segment
import RecordStore.Proofs.Scan.Control

/-!
# The text of canonical programs

The steps in front of a comparison may come in any order and as often as one likes, but there is an
order in which they read as they are meant: a connective, the field that is bound, the negations. A
program all of whose segments keep it is written segment by segment, each as its connective, its
negations, and the comparison with the field that it is evaluated on. Negations come behind the field
among the steps and in front of it among the words, however many there are; if the field was bound
earlier, or is the comparison's own, they are simply written in turn.

Steps that only control may stand anywhere. They write nothing, and neither do the operands that steps
other than comparisons may carry.
-/

namespace RecordStore

open Program

/-! ### Canonical segments -/

namespace Segment

/-- How a canonical segment begins. A connective that names a field binds it at once. -/
inductive Opening
  | plain (connective : Option Connective)
  | binding (connective : Option Connective) (field : String)
  | joint (connective : Connective) (field : String)

namespace Opening

def joins (connective : Option Connective) : List Action :=
  (connective.map fun connective => Action.connect connective none).toList

def actions : Opening → List Action
  | plain connective => joins connective
  | binding connective field => joins connective ++ [.bind (some field)]
  | joint connective field => [.connect connective (some field)]

def connective? : Opening → Option Connective
  | plain connective | binding connective _ => connective
  | joint connective _ => some connective

def field? : Opening → Option String
  | plain _ => none
  | binding _ field | joint _ field => some field

end Opening

/-- In front of the comparison stand, but for control steps, an opening and then negations. If a field
is bound there, the comparison relies on it. -/
def IsCanonical (segment : Segment) : Prop :=
  ∃ opening negations,
    (Step.effective segment.lead).map Step.action =
        Opening.actions opening ++ List.replicate negations .negate ∧
      (opening.field?.isSome = true → segment.named = none)

/-- The words of a segment in the order in which they are meant to be read. -/
def phrase (segment : Segment) : List String :=
  ((Step.last? Step.connective? segment.lead).map Connective.token).toList ++
    List.replicate (segment.lead.countP Step.negates) Command.negate.token ++
    [fieldWord segment.field, segment.test.token, operandWord segment.operand]

end Segment

/-! ### What the steps of a lead say -/

namespace Step

variable {steps : List Step} {opening : Segment.Opening} {negations : Nat}

theorem filterMap_effective {α : Type} {pick : Step → Option α}
    (h : ∀ step, step.isControl = true → pick step = none) (steps : List Step) :
    (effective steps).filterMap pick = steps.filterMap pick := by
  rw [effective, List.filterMap_filter]
  congr 1
  funext step
  cases hcontrol : step.isControl with
  | false => rfl
  | true => exact (h step hcontrol).symm

theorem last?_connective?_of_actions
    (h : (effective steps).map action = opening.actions ++ List.replicate negations .negate) :
    last? connective? steps = opening.connective? := by
  have hcontrol : ∀ step : Step, step.isControl = true → step.connective? = none := by
    intro step hcontrol
    rw [connective?]
    rcases action_of_isControl hcontrol with haction | haction <;> rw [haction]
  have hpick : connective? = (fun action => connective? ⟨action, none⟩) ∘ action := rfl
  rw [last?_eq_getLast?, ← filterMap_effective hcontrol, hpick, ← List.filterMap_map, h,
    List.filterMap_append]
  have hnegations : (List.replicate negations Action.negate).filterMap
      (fun action => connective? ⟨action, none⟩) = [] := by
    apply List.filterMap_eq_nil_iff.2
    intro one hmem
    rw [(List.mem_replicate.1 hmem).2]
    rfl
  rw [hnegations, List.append_nil]
  cases opening with
  | plain connective => cases connective <;> rfl
  | binding connective name => cases connective <;> rfl
  | joint connective name => rfl

theorem countP_negates_of_actions
    (h : (effective steps).map action = opening.actions ++ List.replicate negations .negate) :
    steps.countP negates = negations := by
  have hkept : steps.countP negates = (effective steps).countP negates := by
    rw [effective, List.countP_filter]
    congr 1
    funext step
    by_cases hnegates : step.action = .negate <;> simp [negates, isControl, isLimit, hnegates]
  have hpick : negates = (· == Action.negate) ∘ action := rfl
  have hopening : opening.actions.countP (· == Action.negate) = 0 := by
    cases opening with
    | plain connective => cases connective <;> rfl
    | binding connective name => cases connective <;> rfl
    | joint connective name => rfl
  rw [hkept, hpick, ← List.countP_map, h, List.countP_append, hopening, List.countP_replicate]
  simp

end Step

/-! ### Drafts -/

namespace Program.Draft

theorem step_control (draft : Draft) {step : Step} (h : step.isControl = true) :
    draft.step step = draft := by
  rw [Draft.step]
  rcases Step.action_of_isControl h with haction | haction <;> rw [haction]

theorem foldl_effective (draft : Draft) (steps : List Step) :
    (Step.effective steps).foldl Draft.step draft = steps.foldl Draft.step draft := by
  induction steps generalizing draft with
  | nil => rfl
  | cons step rest ih =>
    rw [Step.effective, List.filter_cons, ← Step.effective, List.foldl_cons]
    by_cases hcontrol : step.isControl = true
    · rw [if_neg (by simp [hcontrol]), step_control draft hcontrol, ih]
    · rw [if_pos (by simp [hcontrol]), List.foldl_cons, ih]

/-- Writes a step that has no operand. -/
def act (draft : Draft) (action : Action) : Draft := draft.step ⟨action, none⟩

theorem foldl_actions (draft : Draft) {steps : List Step} (h : Step.Plain steps) :
    steps.foldl Draft.step draft =
      (steps.map Step.action).foldl act draft := by
  induction steps generalizing draft with
  | nil => rfl
  | cons step rest ih =>
    obtain ⟨hstep, hrest⟩ := List.forall_mem_cons.1 h
    have hsame : draft.step step = draft.act step.action := by
      rw [act, Draft.step, Draft.step]
      cases haction : step.action with
      | compare test named =>
        rw [step.isComparison_iff.2 ⟨test, named, haction⟩] at hstep
        cases hstep
      | connect connective field | bind field => cases field <;> rfl
      | negate | limit => rfl
    rw [List.foldl_cons, List.map_cons, List.foldl_cons, hsame, ih _ hrest]

/-- Negations are written behind the words in front, before the field that waits if there is one. -/
theorem foldl_negations (front : List String) (waiting field : Option String) (n : Nat) :
    (List.replicate n Action.negate).foldl act
        ⟨front ++ waiting.toList, field, waiting.isSome⟩ =
      ⟨front ++ List.replicate n Command.negate.token ++ waiting.toList, field, waiting.isSome⟩ := by
  induction n generalizing front with
  | zero => simp
  | succ n ih =>
    have hstep : act ⟨front ++ waiting.toList, field, waiting.isSome⟩ .negate =
        ⟨front ++ [Command.negate.token] ++ waiting.toList, field, waiting.isSome⟩ := by
      cases waiting with
      | none => simp [act, Draft.step, Draft.write]
      | some name => simp [act, Draft.step, Draft.writeBeforeLast]
    rw [List.replicate_succ, List.foldl_cons, hstep, ih, List.replicate_succ,
      List.append_cons front _ (List.replicate n _)]

theorem foldl_opening (field : Option String) (opening : Segment.Opening) :
    opening.actions.foldl act (start field) =
      ⟨(opening.connective?.map Connective.token).toList ++ opening.field?.toList,
        opening.field?.or field, opening.field?.isSome⟩ := by
  cases opening with
  | plain connective => cases connective <;> rfl
  | binding connective name => cases connective <;> rfl
  | joint connective name => rfl

end Program.Draft

namespace Segment

theorem words_of_isCanonical {segment : Segment} (hlead : Step.Plain segment.lead)
    (h : segment.IsCanonical) : segment.words = segment.phrase := by
  obtain ⟨opening, negations, hactions, hunary⟩ := h
  have heffective : Step.Plain (Step.effective segment.lead) :=
    fun step hmem => hlead step (List.mem_filter.1 hmem).1
  have hdraft : segment.draft =
      ⟨(opening.connective?.map Connective.token).toList ++
          List.replicate negations Command.negate.token ++ opening.field?.toList,
        opening.field?.or (Step.last? Step.bound? segment.before), opening.field?.isSome⟩ := by
    rw [draft, ← Draft.foldl_effective, Draft.foldl_actions _ heffective, hactions,
      List.foldl_append, Draft.foldl_opening, Draft.foldl_negations]
  have hwords : segment.words = segment.draft.words ++
      (segment.draft.subject segment.named ++ [segment.test.token, operandWord segment.operand]) := rfl
  rw [hwords, phrase, Step.last?_connective?_of_actions hactions,
    Step.countP_negates_of_actions hactions, ← field_draft, hdraft]
  cases hfield : opening.field? with
  | none => cases segment.named <;> simp [Draft.subject, fieldWord]
  | some name =>
    have hnamed : segment.named = none := hunary (by rw [hfield]; rfl)
    simp [Draft.subject, fieldWord, hnamed]

end Segment

/-! ### Canonical programs -/

theorem intercalate_flatMap {α : Type} (separator : String) {f : α → List String} {xs : List α}
    (h : ∀ x ∈ xs, f x ≠ []) :
    separator.intercalate (xs.flatMap f) =
      separator.intercalate (xs.map fun x => separator.intercalate (f x)) := by
  induction xs with
  | nil => rfl
  | cons x xs ih =>
    obtain ⟨hfirst, hothers⟩ := List.forall_mem_cons.1 h
    rw [List.flatMap_cons, List.map_cons]
    cases xs with
    | nil => rw [List.flatMap_nil, List.append_nil, List.map_nil, String.intercalate_singleton]
    | cons next xs =>
      have hrest : (next :: xs).flatMap f ≠ [] := by
        simp [hothers next List.mem_cons_self]
      rw [String.intercalate_append_of_ne_nil hfirst hrest, ih hothers,
        String.intercalate_cons_of_ne_nil (by simp)]

namespace Program

/-- All segments of the program are canonical, and behind the last stand only control steps. -/
def IsCanonical (program : Program) : Prop :=
  (∀ segment ∈ Segment.cut program.steps, segment.IsCanonical) ∧
    Step.effective (Segment.remainder program.steps) = []

theorem isCanonical_of_isCut {program : Program} {segments : List Segment} {rest : List Step}
    (h : Segment.IsCut [] program.steps segments rest)
    (hsegments : ∀ segment ∈ segments, segment.IsCanonical) (hrest : Step.effective rest = []) :
    program.IsCanonical := by
  rw [IsCanonical, Segment.cut, h.cutFrom_eq, h.remainder_eq]
  exact ⟨hsegments, hrest⟩

theorem words_of_isCanonical {program : Program} (h : program.IsCanonical) :
    words program.steps = (Segment.cut program.steps).flatMap Segment.phrase := by
  obtain ⟨hsegments, hremainder⟩ := h
  have hcut := Segment.isCut_remainder program.steps
  rw [words_of_isCut hcut, ← Draft.foldl_effective, hremainder, List.foldl_nil, Draft.start,
    List.append_nil]
  apply List.flatMap_congr
  intro segment hmem
  exact Segment.words_of_isCanonical (hcut.lead_plain segment hmem) (hsegments segment hmem)

theorem text_of_isCanonical {program : Program} (h : program.IsCanonical) :
    let segments := Segment.cut program.steps
    let sentence := " ".intercalate (segments.map fun segment => " ".intercalate segment.phrase)
    program.text = "select * from " ++ program.collection.getD "records" ++
      (if segments = [] then "" else " where " ++ sentence) ++
      (program.limit.elim "" fun n => " limit " ++ toString n) := by
  intro segments sentence
  have hphrase : ∀ segment ∈ segments, segment.phrase ≠ [] := by
    intro segment _
    simp [Segment.phrase]
  have hempty : (segments.flatMap Segment.phrase).isEmpty = true ↔ segments = [] := by
    rw [List.isEmpty_iff, List.flatMap_eq_nil_iff]
    constructor
    · intro hnone
      apply List.eq_nil_iff_forall_not_mem.2
      exact fun segment hmem => hphrase segment hmem (hnone segment hmem)
    · rintro hnil segment hmem
      rw [hnil] at hmem
      cases hmem
  change "select * from " ++ program.collection.getD "records" ++
    (if (words program.steps).isEmpty then ""
      else " where " ++ " ".intercalate (words program.steps)) ++ _ = _
  rw [words_of_isCanonical h, if_congr hempty rfl rfl, intercalate_flatMap " " hphrase]
  cases program.limit <;> rfl

end Program

end RecordStore
