import RecordStore.Proofs.Finder.Phrase

/-!
# Finders that are conditions

The parts of a finder make up a condition when there is a comparison among them and every connective
joins two comparisons. What stands in front of a connective is checked when a name is read, so that a
comparison always ends there. Nothing is asked of the end of a name: a connective may come last, and a
limit may come alone. Those are the accepted names that are no conditions, and the only ones.
-/

namespace RecordStore.Finder

/-- Parts that say something, with every connective between two comparisons. -/
structure IsCondition (parts : List FinderPart) : Prop where
  compares : ∃ test field, .compare test field ∈ parts
  left : ∀ before connective after, parts = before ++ .connect connective :: after →
    ∃ lead test field, before = lead ++ [.compare test field]
  right : ∀ before connective after, parts = before ++ .connect connective :: after →
    ∃ n test field rest, after = List.replicate n .negate ++ .compare test field :: rest

def wordsOf (name : String) : List (List Char) :=
  (splitOpening? name.toList).elim [] fun (_, criteria) => splitWords criteria

namespace Sentence

/-- The phrase behind the last connective. -/
def last (s : Sentence) : Phrase := s.joints.getLast?.elim s.first Joint.phrase

theorem parts_cons (first : Phrase) (joint : Joint) (joints : List Joint) :
    (Sentence.mk first (joint :: joints)).parts =
      first.parts ++ .connect joint.connective :: (Sentence.mk joint.phrase joints).parts := by
  simp [parts]

theorem last_cons (first : Phrase) (joint : Joint) (joints : List Joint) :
    (Sentence.mk first (joint :: joints)).last = (Sentence.mk joint.phrase joints).last := by
  rw [last, last, List.getLast?_cons]
  cases joints.getLast? <;> rfl

theorem first_ne_nil {s : Sentence} (h : ∀ junction ∈ s.junctions, junction.1 ≠ [])
    (hlast : s.last ≠ []) : s.first ≠ [] := by
  obtain ⟨first, joints⟩ := s
  cases joints with
  | nil => exact hlast
  | cons joint joints => exact h (first, joint) List.mem_cons_self

/-- A connective among the parts of a sentence stands between two of its phrases. -/
theorem exists_junction {s : Sentence} {limited : Bool} {before after : List FinderPart}
    {connective : Connective}
    (h : s.parts ++ limitParts limited = before ++ .connect connective :: after) :
    ∃ lead phrase joint rest, (phrase, joint) ∈ s.junctions ∧ before = lead ++ phrase.parts ∧
      after = (Sentence.mk joint.phrase rest).parts ++ limitParts limited ∧
      (Sentence.mk joint.phrase rest).junctions ⊆ s.junctions ∧
      (Sentence.mk joint.phrase rest).last = s.last := by
  have hphrase : ∀ (phrase : Phrase) connective, .connect connective ∉ phrase.parts := by
    intro phrase connective
    rw [Phrase.parts]
    split <;> simp [Phrase.comparison]
  have hlimit : ∀ connective, .connect connective ∉ limitParts limited := by
    cases limited <;> simp [limitParts]
  obtain ⟨first, joints⟩ := s
  induction joints generalizing first before with
  | nil =>
    have hmem : FinderPart.connect connective ∈ first.parts ++ limitParts limited := by
      have hparts : (Sentence.mk first []).parts = first.parts := by simp [parts]
      rw [← hparts, h]
      simp
    rcases List.mem_append.1 hmem with hmem | hmem
    · exact absurd hmem (hphrase first connective)
    · exact absurd hmem (hlimit connective)
  | cons joint joints ih =>
    rw [parts_cons, List.append_assoc, List.cons_append] at h
    -- The connective is either the one behind the first phrase or one of those after it.
    rcases List.append_eq_append_iff.1 h with ⟨later, rfl, hlater⟩ | ⟨later, hfirst, hlater⟩
    · cases later with
      | nil =>
        obtain ⟨-, rfl⟩ := List.cons.inj hlater
        exact ⟨[], first, joint, joints, List.mem_cons_self, by simp, rfl,
          List.subset_cons_self _ _, (last_cons first joint joints).symm⟩
      | cons part later =>
        obtain ⟨rfl, hrest⟩ := List.cons.inj hlater
        obtain ⟨lead, phrase, next, rest, hmem, rfl, hafter, hsub, hlast⟩ := ih joint.phrase hrest
        refine ⟨first.parts ++ .connect joint.connective :: lead, phrase, next, rest,
          List.mem_cons_of_mem _ hmem, by simp, hafter, ?_, hlast.trans (last_cons ..).symm⟩
        exact fun _ hjunction => List.mem_cons_of_mem _ (hsub hjunction)
    · cases later with
      | nil =>
        obtain ⟨-, rfl⟩ := List.cons.inj hlater
        rw [List.append_nil] at hfirst
        exact ⟨[], first, joint, joints, List.mem_cons_self, by simp [hfirst], rfl,
          List.subset_cons_self _ _, (last_cons first joint joints).symm⟩
      | cons part later =>
        obtain ⟨rfl, -⟩ := List.cons.inj hlater
        exact absurd (by simp [hfirst]) (hphrase first connective)

theorem exists_before_connective {s : Sentence}
    (hjunctions : ∀ junction ∈ s.junctions, junction.1 ≠ []) {limited : Bool}
    {before after : List FinderPart} {connective : Connective}
    (h : s.parts ++ limitParts limited = before ++ .connect connective :: after) :
    ∃ lead test field, before = lead ++ [.compare test field] := by
  obtain ⟨lead, phrase, joint, rest, hmem, rfl, -, -, -⟩ := exists_junction h
  have hphrase : phrase ≠ [] := hjunctions _ hmem
  rw [Phrase.parts, if_neg hphrase, ← List.append_assoc]
  exact ⟨_, _, _, rfl⟩

theorem compare_not_mem_limitParts (limited : Bool) (test : Test) (field : String) :
    .compare test field ∉ limitParts limited := by
  cases limited <;> simp [limitParts]

theorem parts_of_last_eq_nil {s : Sentence} (h : s.last = []) :
    s.parts = [] ∨ ∃ before connective, s.parts = before ++ [.connect connective] := by
  obtain ⟨first, joints⟩ := s
  rcases List.eq_nil_or_concat joints with rfl | ⟨joints, joint, hjoints⟩
  · have hfirst : first = [] := h
    exact .inl (by simp [parts, hfirst, Phrase.parts])
  · rw [List.concat_eq_append] at hjoints
    subst hjoints
    have hphrase : joint.phrase = [] := by simpa [last] using h
    refine .inr ⟨(Sentence.mk first joints).parts, joint.connective, ?_⟩
    simp [parts, hphrase, Phrase.parts]

/-- A sentence is a condition exactly when it does not end in a connective and has a phrase at all. -/
theorem isCondition_parts_iff {s : Sentence}
    (hjunctions : ∀ junction ∈ s.junctions, junction.1 ≠ []) (limited : Bool) :
    IsCondition (s.parts ++ limitParts limited) ↔ s.last ≠ [] := by
  constructor
  · intro hcondition hlast
    rcases parts_of_last_eq_nil hlast with hnone | ⟨before, connective, hends⟩
    · obtain ⟨test, field, hmem⟩ := hcondition.compares
      rw [hnone] at hmem
      exact compare_not_mem_limitParts limited test field hmem
    · have hparts : s.parts ++ limitParts limited =
          before ++ .connect connective :: limitParts limited := by simp [hends]
      obtain ⟨n, test, field, rest, hafter⟩ := hcondition.right _ _ _ hparts
      exact compare_not_mem_limitParts limited test field (by simp [hafter])
  · intro hlast
    refine ⟨?_, fun before connective after => exists_before_connective hjunctions, ?_⟩
    · have hfirst : s.first.comparison ∈ s.first.parts := by
        simp [Phrase.parts, first_ne_nil hjunctions hlast]
      exact ⟨_, _, List.mem_append_left _ (List.mem_append_left _ hfirst)⟩
    · intro before connective after h
      obtain ⟨-, -, joint, rest, -, -, rfl, hsub, heq⟩ := exists_junction h
      have hphrase : joint.phrase ≠ [] :=
        first_ne_nil (s := ⟨joint.phrase, rest⟩) (fun _ hmem => hjunctions _ (hsub hmem))
          (heq ▸ hlast)
      rw [parts, Phrase.parts, if_neg hphrase, List.append_assoc, List.append_assoc,
        List.singleton_append]
      exact ⟨_, _, _, _, rfl⟩

theorem last_ne_nil_iff {s : Sentence} {words : List (List Char)} (h : s.IsCut words) :
    s.last ≠ [] ↔ ∃ word, words.getLast? = some word ∧ connective? word = none := by
  have hend : ∀ (front : List (List Char)) (phrase : Phrase),
      (∀ word, front.getLast? = some word → connective? word ≠ none) →
      (∀ word ∈ phrase, connective? word = none) →
        (phrase ≠ [] ↔ ∃ word, (front ++ phrase).getLast? = some word ∧ connective? word = none) := by
    intro front phrase hfront hphrase
    rcases List.eq_nil_or_concat phrase with rfl | ⟨phrase, word, hconcat⟩
    · simpa using hfront
    · rw [List.concat_eq_append] at hconcat
      subst hconcat
      have hword := hphrase word (by simp)
      simp [hword]
  obtain ⟨first, joints⟩ := s
  obtain ⟨rfl, hconnects, hplain⟩ := h
  rcases List.eq_nil_or_concat joints with rfl | ⟨joints, joint, hjoints⟩
  · have hfirst := hend [] first (by simp) (hplain first List.mem_cons_self)
    simpa [last] using hfirst
  · rw [List.concat_eq_append] at hjoints
    subst hjoints
    have hjoint : connective? joint.word ≠ none := by
      rw [hconnects joint (by simp)]
      nofun
    have hphrase := hend
      (first ++ (joints.flatMap fun joint => joint.word :: joint.phrase) ++ [joint.word]) joint.phrase
      (by simpa using hjoint) (hplain joint.phrase (by simp [phrases]))
    simpa [last] using hphrase

end Sentence

theorem parts_of_read {collection name : String} {finder : Finder}
    (h : read collection name = .ok finder) :
    let s := Sentence.cut (body (wordsOf name))
    (∀ junction ∈ s.junctions, junction.1 ≠ []) ∧
      finder.parts = s.parts ++ limitParts (isLimited (wordsOf name)) := by
  rw [read] at h
  cases hopening : splitOpening? name.toList with
  | none => simp [hopening] at h
  | some found =>
    obtain ⟨multiplicity, criteria⟩ := found
    have hwords : wordsOf name = splitWords criteria := by rw [wordsOf, hopening]; rfl
    have hnonempty := (isSplit_splitWords criteria).nonempty
    simp only [hopening] at h
    rw [hwords]
    split at h
    · cases h
    · cases hdangling : (Sentence.cut (body (splitWords criteria))).dangling? with
      | none =>
        rw [readParts_of_dangling?_eq_none hnonempty hdangling] at h
        cases h
        exact ⟨(Sentence.dangling?_eq_none_iff _).1 hdangling, rfl⟩
      | some word =>
        rw [readParts_of_dangling?_eq_some hnonempty hdangling] at h
        cases h

/-- In an accepted finder a comparison stands in front of every connective. It is a condition exactly
when its name, but for a limit at the end, does not end in a connective and is not empty. -/
theorem isCondition_iff_of_read {collection name : String} {finder : Finder}
    (h : read collection name = .ok finder) :
    (∀ before connective after, finder.parts = before ++ .connect connective :: after →
        ∃ lead test field, before = lead ++ [.compare test field]) ∧
      (IsCondition finder.parts ↔
        ∃ word, (body (wordsOf name)).getLast? = some word ∧ connective? word = none) := by
  obtain ⟨hjunctions, hparts⟩ := parts_of_read h
  rw [hparts]
  refine ⟨fun before connective after => Sentence.exists_before_connective hjunctions, ?_⟩
  rw [Sentence.isCondition_parts_iff hjunctions]
  exact Sentence.last_ne_nil_iff (Sentence.isCut_cut _)

/-- Negations and a limit behind the last connective are no obstacle, as long as a field is there. -/
theorem isCondition_iff_of_read_negated :
    ∃ finder, read "people" "findByNameOrAgeNotLimit" = .ok finder ∧ IsCondition finder.parts := by
  have haccepted : ∃ finder, read "people" "findByNameOrAgeNotLimit" = .ok finder := ⟨_, rfl⟩
  obtain ⟨finder, hfinder⟩ := haccepted
  have hlast : ∃ word, (body (wordsOf "findByNameOrAgeNotLimit")).getLast? = some word ∧
      connective? word = none := ⟨"Not".toList, by decide, by decide⟩
  exact ⟨finder, hfinder, (isCondition_iff_of_read hfinder).2.2 hlast⟩

/-- A connective at the end of a name joins nothing, and a limit alone compares nothing, but both names
are accepted. -/
theorem not_isCondition_unfinished :
    ¬ (∀ finder, read "people" "findByNameAnd" = .ok finder → IsCondition finder.parts) ∧
      ¬ ∀ finder, read "people" "findByLimit" = .ok finder → IsCondition finder.parts := by
  constructor
  · intro h
    obtain ⟨n, test, field, rest, hafter⟩ :=
      (h _ rfl).right [.compare .eq "name"] .and [] (by decide)
    simp at hafter
  · intro h
    obtain ⟨test, field, hmem⟩ := (h _ rfl).compares
    have hparts : FinderPart.compare test field ∈ [FinderPart.limit] := hmem
    simp at hparts

end RecordStore.Finder
