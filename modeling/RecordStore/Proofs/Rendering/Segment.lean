import Mathlib.Data.List.Induction
import RecordStore.Program.Rendering
import RecordStore.Proofs.Session.Rewriting

/-!
# Programs written segment by segment

Beside the words, a draft remembers the field that is bound and whether a field has been written and
waits for its operator. A comparison uses that field up, so that nothing waits where a segment begins:
what a segment is written as depends on its own steps and on the field that is bound by then, and it
stands behind the words of the segments in front of it. The words of a program are therefore those of
its segments, one after the other.

Within a segment the field that waits is the last word, until a connective without a field is written
behind it. The draft goes on as if the field still stood at the end, and the comparison is left with
the connective in front of its operator. That is the only way for a comparison to lose its subject.
-/

namespace RecordStore

/-- Pieces that stand in a list one behind the other, with anything in front of them, between them and
behind them. -/
inductive InTurn {α : Type} : List (List α) → List α → Prop
  | done (rest : List α) : InTurn [] rest
  | next (gap piece : List α) {pieces : List (List α)} {rest : List α} (h : InTurn pieces rest) :
      InTurn (piece :: pieces) (gap ++ piece ++ rest)

namespace Program.Draft

variable {draft : Draft}

/-- The empty draft, with a field that is bound already. -/
def start (field : Option String) : Draft := { field := field }

/-- The draft with words in front of its own. -/
def behind (draft : Draft) (front : List String) : Draft :=
  { draft with words := front ++ draft.words }

/-- There is a word that waits, if one is said to. -/
def Sound (draft : Draft) : Prop := draft.pending = true → draft.words ≠ []

theorem sound_start (field : Option String) : (start field).Sound := nofun

theorem Sound.step (h : draft.Sound) (step : Step) : (draft.step step).Sound := by
  intro hpending
  rw [Draft.step] at hpending ⊢
  cases haction : step.action with
  | connect connective field => cases field <;> simp [write, bind]
  | negate =>
    simp only
    split
    · simp [writeBeforeLast]
    · simp [write]
  | bind field =>
    cases field with
    | none => exact h (by simpa [haction] using hpending)
    | some name => simp [bind]
  | compare test named => simp [write]
  | limit => exact h (by simpa [haction] using hpending)

theorem writeBeforeLast_behind (hwords : draft.words ≠ []) (front : List String) (word : String) :
    (draft.behind front).writeBeforeLast word = (draft.writeBeforeLast word).behind front := by
  simp only [writeBeforeLast, behind, List.dropLast_append_of_ne_nil hwords,
    List.getLast?_append_of_ne_nil front hwords, List.append_assoc]

theorem Sound.step_behind (h : draft.Sound) (front : List String) (step : Step) :
    (draft.behind front).step step = (draft.step step).behind front := by
  have hpending : (draft.behind front).pending = draft.pending := rfl
  rw [Draft.step, Draft.step]
  cases step.action with
  | connect connective field => cases field <;> simp [behind, write, bind]
  | negate =>
    simp only [hpending]
    -- the only step that looks at a word: the last one, which is the draft's own if a field waits
    by_cases hwaits : draft.pending = true
    · rw [if_pos hwaits, if_pos hwaits, writeBeforeLast_behind (h hwaits)]
    · rw [if_neg hwaits, if_neg hwaits]
      simp [behind, write]
  | bind field => cases field <;> simp [behind, bind]
  | compare test named =>
    have hsubject : (draft.behind front).subject named = draft.subject named := rfl
    simp only [hsubject]
    simp [behind, write]
  | limit => rfl

theorem Sound.foldl_behind (h : draft.Sound) (front : List String) (steps : List Step) :
    steps.foldl Draft.step (draft.behind front) = (steps.foldl Draft.step draft).behind front := by
  induction steps generalizing draft with
  | nil => rfl
  | cons step rest ih => rw [List.foldl_cons, List.foldl_cons, h.step_behind, ih (h.step step)]

theorem field_step (draft : Draft) (step : Step) :
    (draft.step step).field = step.bound?.or draft.field := by
  rw [Draft.step, Step.bound?]
  cases step.action with
  | connect connective field => cases field <;> rfl
  | negate =>
    simp only
    split <;> rfl
  | bind field => cases field <;> rfl
  | compare | limit => rfl

theorem field_foldl (draft : Draft) (steps : List Step) :
    (steps.foldl Draft.step draft).field = (Step.last? Step.bound? steps).or draft.field := by
  induction steps using List.reverseRecOn with
  | nil => rfl
  | append_singleton steps step ih =>
    rw [List.foldl_concat, field_step, ih, Step.last?_concat, Option.or_assoc]

end Program.Draft

namespace Segment

open Program

def draft (segment : Segment) : Draft :=
  segment.lead.foldl Draft.step (.start (Step.last? Step.bound? segment.before))

def words (segment : Segment) : List String := (segment.draft.step segment.comparison).words

theorem field_draft (segment : Segment) :
    segment.named.or segment.draft.field = segment.field := by
  rw [draft, Draft.field_foldl, field, Step.last?_append]
  rfl

/-- A segment leaves nothing behind but its words and the field that is bound. -/
theorem foldl_steps (segment : Segment) :
    segment.steps.foldl Draft.step (.start (Step.last? Step.bound? segment.before)) =
      (Draft.start (Step.last? Step.bound? (segment.before ++ segment.steps))).behind
        segment.words := by
  have hfield : (segment.draft.step segment.comparison).field =
      Step.last? Step.bound? (segment.before ++ segment.steps) := by
    rw [Draft.field_step, draft, Draft.field_foldl, steps, ← List.append_assoc, Step.last?_concat,
      Step.last?_append]
    rfl
  have hdraft : segment.steps.foldl Draft.step (.start (Step.last? Step.bound? segment.before)) =
      segment.draft.step segment.comparison := List.foldl_concat ..
  rw [hdraft, ← hfield, Draft.behind, Draft.start, List.append_nil]
  rfl

theorem foldl_of_isCut {before steps rest : List Step} {segments : List Segment}
    (h : IsCut before steps segments rest) :
    (steps.foldl Draft.step (.start (Step.last? Step.bound? before))).words =
      segments.flatMap words ++ (rest.foldl Draft.step (.start (Step.last? Step.bound?
        (before ++ segments.flatMap Segment.steps)))).words := by
  induction segments generalizing before steps with
  | nil =>
    have hwhole := h.whole
    rw [List.flatMap_nil, List.nil_append] at hwhole
    rw [hwhole, List.flatMap_nil, List.flatMap_nil, List.append_nil, List.nil_append]
  | cons segment segments ih =>
    obtain ⟨rfl, hrest⟩ := h.cons_inv
    have hsound : (Draft.start (Step.last? Step.bound? (segment.before ++ segment.steps))).Sound :=
      Draft.sound_start _
    rw [h.whole, List.flatMap_cons, List.append_assoc, List.foldl_append, foldl_steps,
      hsound.foldl_behind, Draft.behind, ih hrest, List.flatMap_cons, List.append_assoc,
      List.append_assoc]

/-! ### The word in front of an operator -/

/-- The connective that stands behind the last field that steps bind, if one does. -/
def trailing? (steps : List Step) : Option Connective :=
  (steps.reverse.takeWhile (·.bound?.isNone)).findSome? Step.connective?

theorem trailing?_concat (steps : List Step) (step : Step) :
    trailing? (steps ++ [step]) =
      if step.bound?.isSome then none else step.connective?.or (trailing? steps) := by
  rw [trailing?, List.reverse_append, List.reverse_singleton, List.singleton_append,
    List.takeWhile_cons]
  cases step.bound? with
  | none =>
    rw [Option.isNone_none, if_pos rfl, List.findSome?_cons, trailing?]
    cases step.connective? <;> rfl
  | some field => rfl

theorem pending_step (draft : Draft) {step : Step} (h : step.command.isComparison = false) :
    (draft.step step).pending = (step.bound?.isSome || draft.pending) := by
  rw [Draft.step, Step.bound?]
  cases haction : step.action with
  | connect connective field => cases field <;> rfl
  | negate =>
    simp only
    split <;> rfl
  | bind field => cases field <;> rfl
  | compare test named =>
    rw [step.isComparison_iff.2 ⟨test, named, haction⟩] at h
    cases h
  | limit => rfl

theorem getLast?_step {draft : Draft} {word : String}
    (h : draft.pending = true → draft.words.getLast? = some word) {step : Step}
    (hpending : (draft.step step).pending = true) :
    (draft.step step).words.getLast? =
      some (if step.bound?.isSome then fieldWord step.bound?
        else (step.connective?.map Connective.token).getD word) := by
  rw [Draft.step] at hpending ⊢
  rw [Step.bound?, Step.connective?]
  cases haction : step.action with
  | connect connective field =>
    cases field <;> simp [Draft.write, Draft.bind, fieldWord]
  | negate =>
    simp only [haction] at hpending ⊢
    -- a negation makes no field wait
    have hwaits : draft.pending = true := by
      by_cases hwaits : draft.pending = true
      · exact hwaits
      · rw [if_neg hwaits] at hpending
        exact hpending
    rw [if_pos hwaits, Draft.writeBeforeLast, h hwaits]
    simp
  | bind field =>
    cases field with
    | none => simpa using h (by simpa [haction] using hpending)
    | some name => simp [Draft.bind, fieldWord]
  | compare test named => simp [haction] at hpending
  | limit => simpa using h (by simpa [haction] using hpending)

/-- Steps without a comparison leave a field waiting if they bind one, and leave the last connective
behind it, if there is one, or else the field itself at the end. -/
theorem foldl_plain {lead : List Step} (h : Step.Plain lead) (field : Option String) :
    let draft := lead.foldl Draft.step (.start field)
    draft.pending = (Step.last? Step.bound? lead).isSome ∧
      (draft.pending = true →
        draft.words.getLast? =
          some (((trailing? lead).map Connective.token).getD (fieldWord draft.field))) := by
  induction lead using List.reverseRecOn with
  | nil => exact ⟨rfl, nofun⟩
  | append_singleton lead step ih =>
    obtain ⟨hlead, hstep⟩ := List.forall_mem_append.1 h
    obtain ⟨hpending, hlast⟩ := ih hlead
    have hplain := hstep step (List.mem_singleton.2 rfl)
    rw [List.foldl_concat]
    refine ⟨?_, fun hwaits => ?_⟩
    · rw [pending_step _ hplain, hpending, Step.last?_concat, Option.isSome_or]
    · rw [getLast?_step hlast hwaits, trailing?_concat, Draft.field_step]
      cases step.bound? with
      | none =>
        cases step.connective? <;> simp
      | some name => simp

/-- The connective between the field that a segment binds and the comparison that relies on it. -/
def interposed? (segment : Segment) : Option Connective :=
  match segment.named, Step.last? Step.bound? segment.lead with
  | none, some _ => trailing? segment.lead
  | _, _ => none

theorem words_eq (segment : Segment) (h : Step.Plain segment.lead) :
    ∃ gap, segment.words = gap ++ [(segment.interposed?.map Connective.token).getD
      (fieldWord segment.field), segment.test.token, operandWord segment.operand] := by
  have hwords : segment.words = segment.draft.words ++
      (segment.draft.subject segment.named ++ [segment.test.token, operandWord segment.operand]) := rfl
  obtain ⟨hpending, hlast⟩ := foldl_plain h (Step.last? Step.bound? segment.before)
  rw [← draft] at hpending hlast
  rw [hwords, ← field_draft, interposed?]
  cases hnamed : segment.named with
  | some field => exact ⟨segment.draft.words, rfl⟩
  | none =>
    cases hbound : Step.last? Step.bound? segment.lead with
    | none =>
      rw [hbound] at hpending
      exact ⟨segment.draft.words, by simp [Draft.subject, hpending]⟩
    | some field =>
      rw [hbound] at hpending
      have hwaits : segment.draft.pending = true := hpending
      have hend := List.dropLast_append_getLast? _ (hlast hwaits)
      refine ⟨segment.draft.words.dropLast, ?_⟩
      simp only [Draft.subject, hwaits, if_true, List.nil_append, Option.none_or]
      conv_rhs => rw [List.append_cons, hend]

end Segment

namespace Session

variable {σ : Type} {lookup : Lookup σ} {s next : Session} {state after : σ}

theorem field_of_compare {test : Test} {named : Option String} {operand : Option Operand}
    (h : s.compare test named operand = .settled next) : next.field = s.field := by
  rw [Session.compare] at h
  split at h
  · cases h
    rfl
  · split at h
    · cases h
    · split at h <;> cases h

/-- Only connectives and bindings bind a field, whatever comes of the comparisons. -/
theorem field_of_advance {step : Step} (h : s.advance lookup step state = (.ok next, after)) :
    next.field = step.bound?.or s.field := by
  rw [advance, Session.step] at h
  rw [Step.bound?]
  cases haction : step.action with
  | connect | negate | bind | limit =>
    rw [haction] at h
    cases h
    rfl
  | compare test named =>
    simp only [haction] at h
    rw [Option.none_or]
    split at h
    · rename_i hsettled
      cases h
      exact field_of_compare hsettled
    · cases h
    · rename_i question inverts _
      have hanswered := congrArg Prod.fst h
      dsimp only at hanswered
      cases hanswer : (lookup question.field state).1.bind question.answer with
      | error error =>
        rw [hanswer] at hanswered
        cases hanswered
      | ok fulfilled =>
        rw [hanswer] at hanswered
        cases hanswered
        rfl

theorem field_of_replay {steps : List Step} (h : s.replay lookup steps state = (.ok next, after)) :
    next.field = (Step.last? Step.bound? steps).or s.field := by
  induction steps generalizing s state with
  | nil =>
    cases h
    rfl
  | cons step rest ih =>
    rw [replay] at h
    split at h
    · rename_i between _ hadvance
      have hstep : Step.last? Step.bound? [step] = step.bound? := List.findSome?_singleton
      rw [ih h, field_of_advance hadvance, ← List.singleton_append, Step.last?_append, hstep,
        Option.or_assoc]
    · cases h

end Session

theorem InTurn.isInfix {α : Type} {pieces : List (List α)} {whole : List α}
    (h : InTurn pieces whole) : ∀ piece ∈ pieces, piece <:+: whole := by
  induction h with
  | done => exact fun _ hmem => by cases hmem
  | next gap piece _ ih =>
    intro other hmem
    rcases List.mem_cons.1 hmem with rfl | hmem
    · exact ⟨gap, _, rfl⟩
    · exact (ih other hmem).trans (List.suffix_append _ _).isInfix

theorem InTurn.of_flatMap {α β : Type} {whole piece : α → List β} {xs : List α}
    (h : ∀ x ∈ xs, ∃ gap, whole x = gap ++ piece x) (rest : List β) :
    InTurn (xs.map piece) (xs.flatMap whole ++ rest) := by
  induction xs with
  | nil => exact .done rest
  | cons x xs ih =>
    obtain ⟨hfirst, hothers⟩ := List.forall_mem_cons.1 h
    obtain ⟨gap, hgap⟩ := hfirst
    rw [List.map_cons, List.flatMap_cons, hgap, List.append_assoc]
    exact .next gap (piece x) (ih hothers)

namespace Program

theorem words_of_isCut {steps rest : List Step} {segments : List Segment}
    (h : Segment.IsCut [] steps segments rest) :
    words steps = segments.flatMap Segment.words ++ (rest.foldl Draft.step
      (.start (Step.last? Step.bound? (segments.flatMap Segment.steps)))).words :=
  Segment.foldl_of_isCut h

/-- Every comparison stands among the words of a program, in the order of the steps, as the subject,
the operator and the operand. The subject is the field that the comparison has when it is evaluated,
unless the segment binds that field and has a connective behind it: the word in front of the operator
is then the connective. -/
theorem comparisons_in_turn (steps : List Step) :
    let segments := Segment.cut steps
    let comparison := fun (subject : Segment → String) (s : Segment) =>
      [subject s, s.test.token, operandWord s.operand]
    (∃ rest, Segment.IsCut [] steps segments rest) ∧
      (∀ s ∈ segments, ∀ {σ : Type} (lookup : Session.Lookup σ) (state after : σ) session,
        Session.replay lookup {} (s.before ++ s.lead) state = (.ok session, after) →
          s.named.or session.field = s.field) ∧
      InTurn (segments.map (comparison fun s =>
        (s.interposed?.map Connective.token).getD (fieldWord s.field))) (words steps) ∧
      ((∀ s ∈ segments, s.interposed? = none) →
        InTurn (segments.map (comparison fun s => fieldWord s.field)) (words steps)) := by
  intro segments comparison
  obtain ⟨rest, hcut⟩ := Segment.isCut_cut steps
  have hinTurn : InTurn (segments.map (comparison fun s =>
      (s.interposed?.map Connective.token).getD (fieldWord s.field))) (words steps) := by
    rw [words_of_isCut hcut]
    apply InTurn.of_flatMap
    exact fun s hmem => s.words_eq (hcut.lead_plain s hmem)
  refine ⟨⟨rest, hcut⟩, fun s _ σ lookup state after session hreplay => ?_, hinTurn, fun hnone => ?_⟩
  · rw [Session.field_of_replay hreplay, Segment.field, Option.or_none]
  · have hsame : segments.map (comparison fun s => fieldWord s.field) =
        segments.map (comparison fun s =>
          (s.interposed?.map Connective.token).getD (fieldWord s.field)) := by
      apply List.map_congr_left
      intro s hmem
      simp only [comparison, hnone s hmem, Option.map_none, Option.getD_none]
    rwa [hsame]

/-- A negation behind the binding, a field that is bound twice, and a comparison with a field of its
own between a binding and the comparison that relies on it. -/
theorem comparisons_in_turn_negated :
    let one : Option Operand := some (.number (.integer 1))
    let steps : List Step := [⟨.bind (some "a"), none⟩, ⟨.negate, none⟩, ⟨.compare .eq none, one⟩,
      ⟨.connect .or (some "b"), none⟩, ⟨.bind (some "c"), none⟩, ⟨.compare .lt (some "d"), one⟩,
      ⟨.connect .and none, none⟩, ⟨.compare .ne none, none⟩]
    words steps = ["not", "a", "=", "1", "or", "b", "c", "d", "<", "1", "and", "c", "!=", "?"] ∧
      InTurn [["a", "=", "1"], ["d", "<", "1"], ["c", "!=", "?"]] (words steps) := by
  intro one steps
  obtain ⟨-, -, -, hfields⟩ := comparisons_in_turn steps
  have hinTurn := hfields (by decide +kernel)
  have hmap : ((Segment.cut steps).map fun s =>
      [fieldWord s.field, s.test.token, operandWord s.operand]) =
        [["a", "=", "1"], ["d", "<", "1"], ["c", "!=", "?"]] := by decide +kernel
  rw [hmap] at hinTurn
  exact ⟨by decide +kernel, hinTurn⟩

/-- A connective without a field behind a binding takes the place of the subject. -/
theorem not_comparisons_in_turn_and :
    let steps : List Step := [⟨.bind (some "a"), none⟩, ⟨.connect .and none, none⟩,
      ⟨.compare .eq none, some (.number (.integer 1))⟩]
    words steps = ["a", "and", "=", "1"] ∧
      ¬ ∀ steps, InTurn ((Segment.cut steps).map fun s =>
        [fieldWord s.field, s.test.token, operandWord s.operand]) (words steps) := by
  intro steps
  have hwords : words steps = ["a", "and", "=", "1"] := by decide +kernel
  refine ⟨hwords, fun h => ?_⟩
  have hinfix := (h steps).isInfix ["a", "=", "1"] (by decide +kernel)
  rw [hwords] at hinfix
  exact absurd hinfix (by decide +kernel)

end Program

end RecordStore
