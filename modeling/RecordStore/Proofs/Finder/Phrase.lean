import RecordStore.Finder.Lemmas

/-!
# Finders read phrase by phrase

The words of a finder are read one at a time, with the comparison that they have come to as the only
memory. Here the same words are taken as a whole. A `Limit` at the very end is set aside; the rest is
cut at every connective into phrases, and what a phrase says stands in the phrase alone. Both readings
come to the same parts, and refuse the same names: those with a connective that no phrase precedes.

The link between them is that the clause which is being read is the one of the words since the last
connective, `Clause.ofPhrase`. Every word keeps it so.
-/

namespace RecordStore.Finder

/-! ### Phrases -/

def connective? (word : List Char) : Option Connective :=
  match keyword? word with
  | some (.connect connective) => some connective
  | _ => none

/-- The words between two connectives. -/
abbrev Phrase := List (List Char)

namespace Phrase

/-- The words that name the field: the first one, whatever it is, and of the others all but `Not` and
`Like`. -/
def fieldWords : Phrase → List (List Char)
  | [] => []
  | first :: others =>
    first :: others.filter fun word => keyword? word ≠ some .negate ∧ keyword? word ≠ some .like

def negations (phrase : Phrase) : Nat :=
  phrase.tail.countP fun word => keyword? word = some .negate

/-- Whether the last word that is no `Not` is a `Like`, and not the first word. -/
def isLike (phrase : Phrase) : Bool :=
  (phrase.tail.filter fun word => keyword? word ≠ some .negate).getLast?.any fun word =>
    keyword? word = some .like

def comparison (phrase : Phrase) : FinderPart :=
  .compare (if phrase.isLike then .like else .eq)
    (String.ofList (fieldName phrase.fieldWords.flatten))

/-- The parts for a phrase: its negations, then its comparison. -/
def parts (phrase : Phrase) : List FinderPart :=
  if phrase = [] then [] else List.replicate phrase.negations .negate ++ [phrase.comparison]

end Phrase

/-- A connective, as it is written, with the phrase behind it. -/
structure Joint where
  word : List Char
  connective : Connective
  phrase : Phrase

/-- Words that are cut at every connective. -/
structure Sentence where
  first : Phrase
  joints : List Joint

namespace Sentence

def phrases (s : Sentence) : List Phrase := s.first :: s.joints.map Joint.phrase

/-- Each connective with the phrase in front of it. -/
def junctions (s : Sentence) : List (Phrase × Joint) := s.phrases.zip s.joints

def cut : List (List Char) → Sentence
  | [] => ⟨[], []⟩
  | word :: rest =>
    match connective? word with
    | some connective => ⟨[], ⟨word, connective, (cut rest).first⟩ :: (cut rest).joints⟩
    | none => ⟨word :: (cut rest).first, (cut rest).joints⟩

/-- What it means that words are cut at every connective. -/
structure IsCut (words : List (List Char)) (s : Sentence) : Prop where
  whole : words = s.first ++ s.joints.flatMap fun joint => joint.word :: joint.phrase
  connects : ∀ joint ∈ s.joints, connective? joint.word = some joint.connective
  plain : ∀ phrase ∈ s.phrases, ∀ word ∈ phrase, connective? word = none

/-- The parts phrase by phrase, with the connectives between them. -/
def parts (s : Sentence) : List FinderPart :=
  s.first.parts ++ s.joints.flatMap fun joint => .connect joint.connective :: joint.phrase.parts

/-- The first connective with no phrase in front of it. -/
def dangling? (s : Sentence) : Option (List Char) :=
  (s.junctions.find? fun (phrase, _) => phrase.isEmpty).map fun (_, joint) => joint.word

def prepend (s : Sentence) (words : Phrase) : Sentence := ⟨words ++ s.first, s.joints⟩

end Sentence

def isLimited (words : List (List Char)) : Bool :=
  words.getLast?.any fun word => keyword? word = some .limit

/-- The words without a `Limit` at the very end. -/
def body (words : List (List Char)) : List (List Char) :=
  if isLimited words then words.dropLast else words

def limitParts (limited : Bool) : List FinderPart := if limited then [.limit] else []

/-- What the words of a sentence come to: their parts, or the connective at fault. -/
def Sentence.outcome (s : Sentence) (limited : Bool) : Except (List Char) (List FinderPart) :=
  match s.dangling? with
  | some word => .error word
  | none => .ok (s.parts ++ limitParts limited)

theorem body_cons_of_limit {word : List Char} (h : keyword? word = some .limit) :
    isLimited [word] = true ∧ body [word] = [] := by
  simp [body, isLimited, h]

theorem body_cons {word : List Char} {rest : List (List Char)}
    (h : rest = [] → keyword? word ≠ some .limit) :
    isLimited (word :: rest) = isLimited rest ∧ body (word :: rest) = word :: body rest := by
  have hlimited : isLimited (word :: rest) = isLimited rest := by
    cases rest with
    | nil => simpa [isLimited] using h rfl
    | cons next rest => simp [isLimited]
  refine ⟨hlimited, ?_⟩
  rw [body, body, hlimited]
  split
  · rename_i hrest
    cases rest with
    | nil => simp [isLimited] at hrest
    | cons next rest => rfl
  · rfl

/-! ### Cutting -/

namespace Sentence

theorem isCut_cut (words : List (List Char)) : (cut words).IsCut words := by
  induction words with
  | nil => exact ⟨rfl, by simp [cut], by simp [cut, phrases]⟩
  | cons word rest ih =>
    obtain ⟨hwhole, hconnects, hplain⟩ := ih
    rw [cut]
    cases hword : connective? word with
    | some connective =>
      refine ⟨?_, List.forall_mem_cons.2 ⟨hword, hconnects⟩, ?_⟩
      · rw [List.nil_append, List.flatMap_cons, List.cons_append, ← hwhole]
      · exact List.forall_mem_cons.2 ⟨by simp, hplain⟩
    | none =>
      obtain ⟨hfirst, hothers⟩ := List.forall_mem_cons.1 hplain
      refine ⟨?_, hconnects, ?_⟩
      · rw [List.cons_append, ← hwhole]
      · exact List.forall_mem_cons.2 ⟨List.forall_mem_cons.2 ⟨hword, hfirst⟩, hothers⟩

theorem cut_append {phrase : Phrase} (h : ∀ word ∈ phrase, connective? word = none)
    (rest : List (List Char)) : cut (phrase ++ rest) = (cut rest).prepend phrase := by
  induction phrase with
  | nil => rfl
  | cons word phrase ih =>
    obtain ⟨hword, hphrase⟩ := List.forall_mem_cons.1 h
    rw [List.cons_append, cut, hword, ih hphrase]
    rfl

theorem IsCut.cut_eq {words : List (List Char)} {s : Sentence} (h : s.IsCut words) :
    cut words = s := by
  obtain ⟨first, joints⟩ := s
  obtain ⟨rfl, hconnects, hplain⟩ := h
  induction joints generalizing first with
  | nil =>
    have hfirst := hplain first List.mem_cons_self
    rw [List.flatMap_nil, cut_append hfirst]
    simp [cut, prepend]
  | cons joint joints ih =>
    obtain ⟨hjoint, hconnects⟩ := List.forall_mem_cons.1 hconnects
    obtain ⟨hfirst, hothers⟩ := List.forall_mem_cons.1 hplain
    have hrest := ih joint.phrase hconnects hothers
    rw [cut_append hfirst, List.flatMap_cons, List.cons_append, cut, hjoint]
    simp [hrest, prepend]

end Sentence

/-! ### The clause that is being read -/

/-- The clause to which the words since the last connective come. -/
def Clause.ofPhrase (phrase : Phrase) : Clause := ⟨phrase.fieldWords.flatten, phrase.isLike⟩

@[simp] theorem Clause.ofPhrase_nil : ofPhrase [] = {} := rfl

namespace Phrase

@[simp] theorem negations_nil : negations [] = 0 := rfl

theorem field_ofPhrase_ne_nil {phrase : Phrase} (h : ∀ word ∈ phrase, word ≠ [])
    (hphrase : phrase ≠ []) : (Clause.ofPhrase phrase).field ≠ [] := by
  cases phrase with
  | nil => exact absurd rfl hphrase
  | cons first others =>
    have hfirst : first ≠ [] := h first List.mem_cons_self
    simp [Clause.ofPhrase, fieldWords, hfirst]

/-- The parts for a phrase are its negations, which are given at once, and those of its clause. -/
theorem parts_eq {phrase : Phrase} (h : ∀ word ∈ phrase, word ≠ []) :
    phrase.parts = List.replicate phrase.negations .negate ++ (Clause.ofPhrase phrase).parts := by
  rw [parts, Clause.parts]
  by_cases hphrase : phrase = []
  · subst hphrase
    rfl
  · rw [if_neg hphrase, if_neg (field_ofPhrase_ne_nil h hphrase)]
    rfl

theorem ofPhrase_concat (phrase : Phrase) (word : List Char) :
    Clause.ofPhrase (phrase ++ [word]) =
      (if phrase = [] then (Clause.ofPhrase phrase).extend word
      else
        match keyword? word with
        | some .negate => Clause.ofPhrase phrase
        | some .like => { Clause.ofPhrase phrase with like := true }
        | _ => (Clause.ofPhrase phrase).extend word) ∧
    (phrase ++ [word]).negations =
      phrase.negations + (if phrase ≠ [] ∧ keyword? word = some .negate then 1 else 0) := by
  cases phrase with
  | nil => simp [Clause.ofPhrase, Clause.extend, fieldWords, isLike, negations]
  | cons first others =>
    cases hword : keyword? word with
    | none => simp [Clause.ofPhrase, Clause.extend, fieldWords, isLike, negations, hword]
    | some keyword =>
      cases keyword <;>
        simp [Clause.ofPhrase, Clause.extend, fieldWords, isLike, negations, hword]

end Phrase

/-! ### Reading the words -/

theorem readParts_of_plain {pending : Phrase} (hpending : ∀ word ∈ pending, word ≠ [])
    {word : List Char} {rest : List (List Char)} (hplain : connective? word = none)
    (hlimit : rest = [] → keyword? word ≠ some .limit) :
    (readParts (Clause.ofPhrase pending) (word :: rest)).map
        (List.replicate pending.negations .negate ++ ·) =
      (readParts (Clause.ofPhrase (pending ++ [word])) rest).map
        (List.replicate (pending ++ [word]).negations .negate ++ ·) := by
  obtain ⟨hclause, hnegations⟩ := pending.ofPhrase_concat word
  rw [hclause, hnegations, readParts]
  cases hword : keyword? word with
  | none => simp
  | some keyword =>
    cases keyword with
    | connect connective => simp [connective?, hword] at hplain
    | limit =>
      have hrest : rest ≠ [] := fun hrest => hlimit hrest hword
      simp [hrest]
    | like =>
      by_cases hsome : pending = []
      · simp [hsome]
      · simp [hsome, Phrase.field_ofPhrase_ne_nil hpending hsome]
    | negate =>
      by_cases hsome : pending = []
      · simp [hsome]
      · simp only [hsome, Phrase.field_ofPhrase_ne_nil hpending hsome, if_false, ne_eq,
          not_false_eq_true, true_and, if_true, List.replicate_succ']
        cases readParts (Clause.ofPhrase pending) rest with
        | error fault => rfl
        | ok parts => simp [Except.map]

namespace Sentence

theorem outcome_joint (phrase : Phrase) (word : List Char) (connective : Connective) (s : Sentence)
    (limited : Bool) :
    (Sentence.mk phrase (⟨word, connective, s.first⟩ :: s.joints)).outcome limited =
      if phrase = [] then .error word
      else (s.outcome limited).map fun parts => phrase.parts ++ .connect connective :: parts := by
  have hjunctions : (Sentence.mk phrase (⟨word, connective, s.first⟩ :: s.joints)).junctions =
      (phrase, ⟨word, connective, s.first⟩) :: s.junctions := rfl
  rw [outcome, dangling?, hjunctions, List.find?_cons]
  by_cases hphrase : phrase = []
  · simp [hphrase]
  · simp only [List.isEmpty_eq_false_iff.2 hphrase, if_neg hphrase]
    rw [outcome, ← dangling?]
    cases s.dangling? with
    | some fault => rfl
    | none => simp [parts, Except.map]

end Sentence

/-- Reading words comes to what they say as a sentence, given the phrase so far. -/
theorem readParts_ofPhrase {words : List (List Char)} (hwords : ∀ word ∈ words, word ≠ [])
    {pending : Phrase} (hpending : ∀ word ∈ pending, word ≠ []) :
    (readParts (Clause.ofPhrase pending) words).map
        (List.replicate pending.negations .negate ++ ·) =
      ((Sentence.cut (body words)).prepend pending).outcome (isLimited words) := by
  induction words generalizing pending with
  | nil =>
    have hparts := Phrase.parts_eq hpending
    simp [readParts, body, isLimited, Sentence.cut, Sentence.prepend, Sentence.outcome,
      Sentence.dangling?, Sentence.junctions, Sentence.parts, limitParts, hparts, Except.map]
  | cons word rest ih =>
    obtain ⟨hword, hrest⟩ := List.forall_mem_cons.1 hwords
    by_cases hlimit : rest = [] ∧ keyword? word = some .limit
    · obtain ⟨rfl, hkeyword⟩ := hlimit
      obtain ⟨hlimited, hbody⟩ := body_cons_of_limit hkeyword
      have hparts := Phrase.parts_eq hpending
      simp [readParts, hkeyword, hlimited, hbody, Sentence.cut, Sentence.prepend, Sentence.outcome,
        Sentence.dangling?, Sentence.junctions, Sentence.parts, limitParts, hparts, Except.map]
    · have hlimit : rest = [] → keyword? word ≠ some .limit := not_and.1 hlimit
      obtain ⟨hlimited, hbody⟩ := body_cons hlimit
      rw [hlimited, hbody, Sentence.cut]
      cases hconnective : connective? word with
      | none =>
        have hpending' : ∀ other ∈ pending ++ [word], other ≠ [] := by
          simpa [or_imp, forall_and, hword] using hpending
        rw [readParts_of_plain hpending hconnective hlimit, ih hrest hpending']
        simp [Sentence.prepend]
      | some connective =>
        -- A connective ends the phrase, and the rest is read as from the start.
        have hkeyword : keyword? word = some (.connect connective) := by
          revert hconnective
          rw [connective?]
          split <;> simp_all
        have hfresh := ih hrest (List.forall_mem_nil _)
        rw [Clause.ofPhrase_nil] at hfresh
        rw [readParts, hkeyword]
        simp only [Sentence.prepend, List.append_nil, List.nil_append] at hfresh ⊢
        rw [Sentence.outcome_joint, ← hfresh]
        by_cases hnone : pending = []
        · simp [hnone, Except.map]
        · have hfield := Phrase.field_ofPhrase_ne_nil hpending hnone
          have hparts := Phrase.parts_eq hpending
          rw [Clause.parts, if_neg hfield] at hparts
          simp only [hfield, hnone, if_false]
          cases readParts {} rest with
          | error fault => rfl
          | ok parts => simp [Except.map, hparts]

theorem readParts_eq_outcome {words : List (List Char)} (h : ∀ word ∈ words, word ≠ []) :
    readParts {} words = (Sentence.cut (body words)).outcome (isLimited words) := by
  have hread := readParts_ofPhrase h (List.forall_mem_nil _)
  rw [Clause.ofPhrase_nil] at hread
  change _ = (Sentence.cut (body words)).outcome (isLimited words) at hread
  rw [← hread]
  cases readParts {} words <;> simp [Except.map]

theorem readParts_of_dangling?_eq_none {words : List (List Char)} (h : ∀ word ∈ words, word ≠ [])
    (hdangling : (Sentence.cut (body words)).dangling? = none) :
    readParts {} words =
      .ok ((Sentence.cut (body words)).parts ++ limitParts (isLimited words)) := by
  rw [readParts_eq_outcome h, Sentence.outcome, hdangling]

theorem readParts_of_dangling?_eq_some {words : List (List Char)} (h : ∀ word ∈ words, word ≠ [])
    {word : List Char} (hdangling : (Sentence.cut (body words)).dangling? = some word) :
    readParts {} words = .error word := by
  rw [readParts_eq_outcome h, Sentence.outcome, hdangling]

namespace Sentence

theorem dangling?_eq_none_iff (s : Sentence) :
    s.dangling? = none ↔ ∀ junction ∈ s.junctions, junction.1 ≠ [] := by
  simp [dangling?]

theorem countP_takesArgument (s : Sentence) (limited : Bool) :
    (s.parts ++ limitParts limited).countP takesArgument =
      s.phrases.countP (· ≠ []) + if limited then 1 else 0 := by
  have hphrase : ∀ phrase : Phrase,
      phrase.parts.countP takesArgument = if phrase ≠ [] then 1 else 0 := by
    intro phrase
    by_cases h : phrase = []
    · simp [Phrase.parts, h]
    · simp [Phrase.parts, h, Phrase.comparison, takesArgument, List.countP_replicate]
  have hlimit : (limitParts limited).countP takesArgument = if limited then 1 else 0 := by
    cases limited <;> rfl
  obtain ⟨first, joints⟩ := s
  rw [List.countP_append, hlimit, parts, List.countP_append, hphrase, phrases, List.countP_cons]
  have hjoints : (joints.flatMap fun joint =>
      FinderPart.connect joint.connective :: joint.phrase.parts).countP takesArgument =
        (joints.map Joint.phrase).countP (· ≠ []) := by
    induction joints with
    | nil => rfl
    | cons joint joints ih =>
      rw [List.flatMap_cons, List.countP_append, List.countP_cons, hphrase, ih, List.map_cons,
        List.countP_cons]
      simp [takesArgument, Nat.add_comm]
  rw [hjoints]
  simp [Nat.add_comm]

end Sentence

/-- A name is read phrase by phrase. It is refused exactly when a connective has no phrase in front of
it, and its parts are those of its phrases, joined by the connectives, with the limit behind them. Each
phrase that has words takes one argument, and so does the limit. -/
theorem read_by_phrases (collection : String) {opening : List Char} {multiplicity : Multiplicity}
    (hopening : (opening, multiplicity) ∈ openings) {criteria : List Char}
    (hcriteria : criteria ≠ []) :
    let name := String.ofList (opening ++ criteria)
    let words := splitWords criteria
    let s := Sentence.cut (body words)
    IsSplit criteria words ∧ s.IsCut (body words) ∧
      ((∃ finder, read collection name = .ok finder) ↔
        ∀ junction ∈ s.junctions, junction.1 ≠ []) ∧
      (∀ finder, read collection name = .ok finder →
        finder = ⟨collection, name, multiplicity, s.parts ++ limitParts (isLimited words)⟩ ∧
          finder.arity = s.phrases.countP (· ≠ []) + if isLimited words then 1 else 0) ∧
      ∀ fault, read collection name = .error fault →
        ∃ word, s.dangling? = some word ∧
          fault = .danglingConnective name (String.ofList word) := by
  intro name words s
  have hsplit := isSplit_splitWords criteria
  have hname : name.toList = opening ++ criteria := String.toList_ofList
  have hread := read_append hopening hname collection
  rw [if_neg hcriteria] at hread
  cases hdangling : s.dangling? with
  | none =>
    rw [readParts_of_dangling?_eq_none hsplit.nonempty hdangling] at hread
    have hjunctions := s.dangling?_eq_none_iff.1 hdangling
    refine ⟨hsplit, Sentence.isCut_cut (body words), ?_, ?_, ?_⟩
    · exact ⟨fun _ => hjunctions, fun _ => ⟨_, hread⟩⟩
    · intro finder hfinder
      cases hread.symm.trans hfinder
      exact ⟨rfl, s.countP_takesArgument (isLimited words)⟩
    · intro fault hfault
      cases hread.symm.trans hfault
  | some word =>
    rw [readParts_of_dangling?_eq_some hsplit.nonempty hdangling] at hread
    have hrefused : ∀ finder, read collection name ≠ .ok finder := by
      intro finder hfinder
      cases hread.symm.trans hfinder
    refine ⟨hsplit, Sentence.isCut_cut (body words), ?_, ?_, ?_⟩
    · constructor
      · rintro ⟨finder, hfinder⟩
        exact absurd hfinder (hrefused finder)
      · intro hjunctions
        rw [s.dangling?_eq_none_iff.2 hjunctions] at hdangling
        cases hdangling
    · intro finder hfinder
      exact absurd hfinder (hrefused finder)
    · intro fault hfault
      cases hread.symm.trans hfault
      exact ⟨word, rfl, rfl⟩

/-- A keyword names a field where it comes first in its phrase, and a limit does so everywhere but at
the very end. -/
theorem read_by_phrases_keyword_fields :
    ∃ finder, read "people" "findByNotLikeNotOrLikeLikeAndLimitReachedLimit" = .ok finder ∧
      finder.parts =
        [.negate, .compare .like "not", .connect .or, .compare .like "like", .connect .and,
          .compare .eq "limit_reached", .limit] ∧
      finder.arity = 4 := by
  have hopening : ("findBy".toList, Multiplicity.many) ∈ openings := by decide
  have hcriteria : "NotLikeNotOrLikeLikeAndLimitReachedLimit".toList ≠ [] := by decide
  obtain ⟨-, -, haccepted, hparts, -⟩ := read_by_phrases "people" hopening hcriteria
  have hall : ∃ finder,
      read "people" "findByNotLikeNotOrLikeLikeAndLimitReachedLimit" = .ok finder :=
    haccepted.2 (by decide)
  obtain ⟨finder, hfinder⟩ := hall
  obtain ⟨rfl, harity⟩ := hparts finder hfinder
  exact ⟨_, hfinder, by decide, harity.trans (by decide)⟩

end RecordStore.Finder
