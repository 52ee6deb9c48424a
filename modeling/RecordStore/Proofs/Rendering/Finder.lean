import RecordStore.Proofs.Finder.Binding
import RecordStore.Proofs.Rendering.Canonical

/-!
# The text of bound finders

A phrase of a finder becomes a segment of its program: the connective in front of the phrase, its
negations, and the comparison, which has a field of its own. So the program of a finder is canonical
whatever its arguments are, provided that a phrase follows its last connective; the limit comes last
and controls only. How canonical programs are written then settles how finders are.
-/

namespace RecordStore

open Segment

def FinderPart.action : FinderPart → Action
  | compare test field => .compare test (some field)
  | connect connective => .connect connective none
  | negate => .negate
  | limit => .limit

namespace Finder

variable {steps : List Step} {connective : Option Connective} {limited : Bool}

theorem IsBinding.map_action {parts : List FinderPart} {arguments : List Operand}
    (h : IsBinding parts arguments steps) : steps.map Step.action = parts.map FinderPart.action := by
  have hmade := h.made
  clear h
  induction hmade with
  | nil => rfl
  | @cons part step parts steps hstep _ ih =>
    have haction : step.action = part.action := by
      obtain ⟨hstep, -⟩ := hstep
      cases part with
      | compare | connect | negate | limit =>
        exact (congrArg Step.action (Except.ok.inj hstep)).symm
    rw [List.map_cons, List.map_cons, haction, ih]

/-- Steps that do what a phrase and the connective in front of it say begin with a canonical segment. -/
theorem exists_segment (before : List Step) {phrase : Phrase} (hphrase : phrase ≠ []) {later : List Action}
    (h : steps.map Step.action =
      Opening.joins connective ++ (phrase.parts.map FinderPart.action ++ later)) :
    ∃ segment : Segment, ∃ tail, steps = segment.steps ++ tail ∧ segment.before = before ∧
      Step.Plain segment.lead ∧ segment.IsCanonical ∧ tail.map Step.action = later := by
  have hparts : phrase.parts.map FinderPart.action =
      List.replicate phrase.negations .negate ++ [phrase.comparison.action] := by
    rw [Phrase.parts, if_neg hphrase, List.map_append, List.map_replicate]
    rfl
  rw [hparts, List.append_assoc, ← List.append_assoc] at h
  obtain ⟨lead, rest, rfl, hlead, hrest⟩ := List.map_eq_append_iff.1 h
  obtain ⟨step, tail, rfl, hstep, htail⟩ := List.map_eq_cons_iff.1 hrest
  let segment : Segment :=
    ⟨before, lead, if phrase.isLike then .like else .eq,
      some (String.ofList (fieldName phrase.fieldWords.flatten)), step.operand⟩
  have hcomparison : segment.comparison = step :=
    calc segment.comparison = ⟨phrase.comparison.action, step.operand⟩ := rfl
      _ = step := by rw [← hstep]
  -- In front of the comparison nothing is compared and nothing controls.
  have hlead' : ∀ other ∈ lead, other.command.isComparison = false ∧ (!other.isControl) = true := by
    intro other hmem
    have haction : other.action ∈
        Opening.joins connective ++ List.replicate phrase.negations .negate := by
      rw [← hlead]
      exact List.mem_map_of_mem hmem
    rw [Step.command, Step.isControl, Step.isLimit]
    rcases List.mem_append.1 haction with haction | haction
    · obtain ⟨joined, -, haction⟩ := Option.map_eq_some_iff.1 (Option.mem_toList.1 haction)
      rw [← haction]
      exact ⟨rfl, rfl⟩
    · rw [(List.mem_replicate.1 haction).2]
      exact ⟨rfl, rfl⟩
  refine ⟨segment, tail, ?_, rfl, fun other hmem => (hlead' other hmem).1, ?_, htail⟩
  · rw [Segment.steps, hcomparison, List.append_assoc, List.singleton_append]
  · refine ⟨.plain connective, phrase.negations, ?_, ?_⟩
    · have hall : Step.effective lead = lead :=
        List.filter_eq_self.2 fun other hmem => (hlead' other hmem).2
      rw [hall, hlead]
      rfl
    · intro hfield
      cases hfield

theorem effective_of_limitParts
    (h : steps.map Step.action = (limitParts limited).map FinderPart.action) :
    Step.Plain steps ∧ Step.effective steps = [] := by
  have hlimit : ∀ step ∈ steps, step.action = .limit := by
    intro step hmem
    have haction := List.mem_map_of_mem (f := Step.action) hmem
    rw [h] at haction
    cases limited with
    | false => cases haction
    | true => exact List.mem_singleton.1 haction
  constructor
  · intro step hmem
    rw [Step.command, hlimit step hmem]
    rfl
  · apply List.filter_eq_nil_iff.2
    intro step hmem
    rw [Step.isControl, Step.isLimit, hlimit step hmem]
    decide

theorem exists_isCut_of_actions (before : List Step) {s : Sentence}
    (hjunctions : ∀ junction ∈ s.junctions, junction.1 ≠ []) (hlast : s.last ≠ [])
    (h : steps.map Step.action =
      Opening.joins connective ++ (s.parts ++ limitParts limited).map FinderPart.action) :
    ∃ segments rest, IsCut before steps segments rest ∧
      (∀ segment ∈ segments, segment.IsCanonical) ∧ Step.effective rest = [] := by
  obtain ⟨first, joints⟩ := s
  induction joints generalizing first before steps connective with
  | nil =>
    have hfirst : first ≠ [] := hlast
    have hparts : (Sentence.mk first []).parts = first.parts := List.append_nil _
    rw [hparts, List.map_append] at h
    obtain ⟨segment, tail, rfl, rfl, hlead, hcanonical, htail⟩ := exists_segment before hfirst h
    obtain ⟨hplain, heffective⟩ := effective_of_limitParts htail
    have hcut := (isCut_plain (segment.before ++ segment.steps) hplain).cons hlead
    exact ⟨[segment], tail, hcut, List.forall_mem_singleton.2 hcanonical, heffective⟩
  | cons joint joints ih =>
    have hfirst : first ≠ [] := Sentence.first_ne_nil hjunctions hlast
    rw [Sentence.parts_cons, List.append_assoc, List.map_append] at h
    obtain ⟨segment, tail, rfl, rfl, hlead, hcanonical, htail⟩ := exists_segment before hfirst h
    have hrest : tail.map Step.action = Opening.joins (some joint.connective) ++
        ((Sentence.mk joint.phrase joints).parts ++ limitParts limited).map FinderPart.action := htail
    have hlast' := Sentence.last_cons first joint joints ▸ hlast
    obtain ⟨segments, rest, hcut, hsegments, heffective⟩ :=
      ih _ joint.phrase (fun _ hmem => hjunctions _ (List.mem_cons_of_mem _ hmem)) hlast' hrest
    exact ⟨segment :: segments, rest, hcut.cons hlead,
      List.forall_mem_cons.2 ⟨hcanonical, hsegments⟩, heffective⟩

/-- Behind every connective of a finder there is a comparison for it to join. -/
def IsFollowed (finder : Finder) : Prop :=
  ∀ before connective after, finder.parts = before ++ .connect connective :: after →
    ∃ test field, .compare test field ∈ after

theorem isCanonical_of_bind {collection name : String} {finder : Finder}
    (hread : read collection name = .ok finder) (hfollowed : finder.IsFollowed)
    {arguments : List Operand} {program : Program} (hbind : finder.bind arguments = .ok program) :
    program.IsCanonical := by
  obtain ⟨hjunctions, hparts⟩ := parts_of_read hread
  generalize Sentence.cut (body (wordsOf name)) = s at hjunctions hparts
  generalize isLimited (wordsOf name) = limited at hparts
  have hactions := (isBinding_of_bind hbind).map_action
  rw [hparts] at hactions
  by_cases hlast : s.last = []
  · -- The sentence cannot end in a connective, so that it is empty.
    have hnone : s.parts = [] := by
      refine (Sentence.parts_of_last_eq_nil hlast).resolve_right ?_
      rintro ⟨before, connective, hends⟩
      obtain ⟨test, field, hmem⟩ := hfollowed before connective (limitParts limited)
        (by simp [hparts, hends])
      exact Sentence.compare_not_mem_limitParts limited test field hmem
    rw [hnone, List.nil_append] at hactions
    obtain ⟨hplain, heffective⟩ := effective_of_limitParts hactions
    exact Program.isCanonical_of_isCut (isCut_plain [] hplain) (by simp) heffective
  · have hstart : program.steps.map Step.action =
        Opening.joins none ++ (s.parts ++ limitParts limited).map FinderPart.action := hactions
    obtain ⟨segments, rest, hcut, hsegments, heffective⟩ :=
      exists_isCut_of_actions [] hjunctions hlast hstart
    exact Program.isCanonical_of_isCut hcut hsegments heffective

end Finder

/-- The text of a canonical program names its collection and, if there are any, writes its segments
one after the other, each as its connective, its negations, and the comparison with the field that it
is evaluated on; the limit that is in force stands at the end. The programs of finders are canonical,
unless a connective has nothing behind it. -/
theorem Program.text_by_phrases :
    (∀ program : Program, program.IsCanonical →
      let segments := Segment.cut program.steps
      let sentence := " ".intercalate (segments.map fun segment => " ".intercalate segment.phrase)
      program.text = "select * from " ++ program.collection.getD "records" ++
        (if segments = [] then "" else " where " ++ sentence) ++
        (program.limit.elim "" fun n => " limit " ++ toString n)) ∧
      ∀ collection name finder arguments program, Finder.read collection name = .ok finder →
        finder.IsFollowed → finder.bind arguments = .ok program → program.IsCanonical :=
  ⟨fun _ => Program.text_of_isCanonical,
    fun _ _ _ _ _ hread hfollowed hbind => Finder.isCanonical_of_bind hread hfollowed hbind⟩

/-- Two negations behind a binding, with control steps around them, and a finder with two of them. -/
theorem Program.text_by_phrases_negated :
    let one : Operand := .number (.integer 1)
    let aged := ((Program.on "people").whereField "age").negate.limitTo 3
    let program := ((aged.whereCurrent.negate.compare .eq one).connect .or (some "name")).negate.compare
      .lt one
    let name := "findByNameLikeOrAgeNotNotLimit"
    let finder : Finder := ⟨"people", name, .many,
      [.compare .like "name", .connect .or, .negate, .negate, .compare .eq "age", .limit]⟩
    (program.IsCanonical ∧
      program.text = "select * from people where not not age = 1 or not name < 1 limit 3") ∧
      Finder.read "people" name = .ok finder ∧ finder.IsFollowed ∧
      ∃ bound, finder.bind [.string "A%", one, one] = .ok bound ∧
        bound.text = "select * from people where name like 'A%' or not not age = 1 limit 1" := by
  intro one aged program name finder
  have hcanonical : program.IsCanonical := by
    refine ⟨(List.forall_mem_cons (p := Segment.IsCanonical)).2 ⟨?_, ?_⟩, rfl⟩
    · exact ⟨.binding none "age", 2, rfl, fun _ => rfl⟩
    · exact List.forall_mem_singleton.2 ⟨.joint .or "name", 1, rfl, fun _ => rfl⟩
  have hread : Finder.read "people" name = .ok finder := by decide
  have hfollowed : finder.IsFollowed := by
    intro before connective after h
    rcases before with _ | ⟨_, _ | ⟨_, _ | ⟨_, _ | ⟨_, _ | ⟨_, _ | ⟨_, _⟩⟩⟩⟩⟩⟩ <;>
      simp [finder] at h
    exact ⟨.eq, "age", by simp [← h.2.2]⟩
  obtain ⟨bound, hbound⟩ : ∃ bound, finder.bind [.string "A%", one, one] = .ok bound := ⟨_, rfl⟩
  obtain ⟨htext, hfinder⟩ := Program.text_by_phrases
  refine ⟨⟨hcanonical, (htext program hcanonical).trans (by decide +kernel)⟩, hread, hfollowed, bound,
    hbound, ?_⟩
  have hcanonical' := hfinder "people" name finder _ bound hread hfollowed hbound
  refine (htext bound hcanonical').trans ?_
  cases hbound
  decide +kernel

end RecordStore
