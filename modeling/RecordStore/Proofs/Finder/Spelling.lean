import RecordStore.Program.Lemmas
import RecordStore.Proofs.Finder.Phrase

/-!
# Spelling a query in a name

A query that compares fields can be spelled in the name of a finder, as long as its field names do not
look like keywords in the wrong places. The words of each field are written with capital initials, one
after the other, then `Not` and `Like` where they are wanted; connectives stand between the
comparisons and `Limit` at the end. Reading the name gives the query back, and binding arguments fills
it in, one for each comparison and one for the limit.
-/

namespace RecordStore.Finder

/-! ### Words with capital initials -/

/-- A lowercase ASCII letter, then lowercase ASCII letters and digits. -/
def isPlain : List Char → Bool
  | [] => false
  | c :: rest => c.isLower && rest.all fun d => d.isLower || d.isDigit

def capitalize : List Char → List Char
  | [] => []
  | c :: rest => c.toUpper :: rest

def Keyword.text : Keyword → List Char
  | connect .and => "and".toList
  | connect .or => "or".toList
  | negate => "not".toList
  | like => "like".toList
  | limit => "limit".toList

theorem keyword?_eq_some_iff (word : List Char) (keyword : Keyword) :
    keyword? word = some keyword ↔ Text.asciiLowercase word = keyword.text := by
  rw [keyword?]
  generalize Text.asciiLowercase word = lower
  constructor
  · intro h
    repeat
      split at h
      · cases h
        assumption
    cases h
  · rintro rfl
    rcases keyword with (_ | _) | _ | _ | _ <;> decide

theorem isPlain_cons {c : Char} {rest : List Char} :
    isPlain (c :: rest) = true ↔
      c.isLower = true ∧ ∀ d ∈ rest, d.isLower = true ∨ d.isDigit = true := by
  simp [isPlain]

theorem asciiLowercase_capitalize {letters : List Char} (h : isPlain letters = true) :
    Text.asciiLowercase (capitalize letters) = letters := by
  cases letters with
  | nil => rfl
  | cons c rest =>
    obtain ⟨hc, hrest⟩ := isPlain_cons.1 h
    have hsame : rest.map Char.toLower = rest := by
      rw [List.map_congr_left fun d hd => (Text.small_of_plain (hrest d hd)).2, List.map_id']
    rw [capitalize, Text.asciiLowercase, List.map_cons, (Text.toUpper_of_isLower hc).2.2, hsame]

theorem keyword?_capitalize {letters : List Char} (h : isPlain letters = true) (keyword : Keyword) :
    keyword? (capitalize letters) = some keyword ↔ letters = keyword.text := by
  rw [keyword?_eq_some_iff, asciiLowercase_capitalize h]

theorem connective?_eq_none_iff {word : List Char} :
    connective? word = none ↔ ∀ connective, keyword? word ≠ some (.connect connective) := by
  rw [connective?]
  split <;> simp_all

/-- Words with capital initials can be told apart when they are run together. -/
theorem isSplit_flatten {words : List (List Char)}
    (h : ∀ word ∈ words, ∃ letters, isPlain letters = true ∧ word = capitalize letters) :
    IsSplit words.flatten words := by
  have hword : ∀ word ∈ words, ∃ c rest, word = c :: rest ∧ Text.isUppercase c = true ∧
      ∀ d ∈ rest, Text.isUppercase d = false := by
    intro word hmem
    obtain ⟨letters, hplain, rfl⟩ := h word hmem
    cases letters with
    | nil => simp [isPlain] at hplain
    | cons c rest =>
      obtain ⟨hc, hrest⟩ := isPlain_cons.1 hplain
      exact ⟨c.toUpper, rest, rfl, (Text.toUpper_of_isLower hc).1,
        fun d hd => (Text.small_of_plain (hrest d hd)).1⟩
  refine ⟨rfl, ?_, ?_, ?_⟩
  · intro word hmem
    obtain ⟨c, rest, rfl, -, -⟩ := hword word hmem
    simp
  · intro word hmem
    obtain ⟨c, rest, rfl, hc, -⟩ := hword word (List.mem_of_mem_tail hmem)
    simpa using hc
  · intro word hmem
    obtain ⟨c, rest, rfl, -, hrest⟩ := hword word hmem
    exact hrest

theorem flatMap_fieldChar {rest : List Char}
    (h : ∀ d ∈ rest, d.isLower = true ∨ d.isDigit = true) :
    rest.flatMap (fieldChar true) = rest := by
  induction rest with
  | nil => rfl
  | cons d rest ih =>
    obtain ⟨hd, hrest⟩ := List.forall_mem_cons.1 h
    rw [List.flatMap_cons, ih hrest, fieldChar, (Text.small_of_plain hd).1]
    rfl

theorem flatMap_fieldChar_capitalize {words : List (List Char)}
    (h : ∀ letters ∈ words, isPlain letters = true) :
    (words.map capitalize).flatten.flatMap (fieldChar true) = words.flatMap ('_' :: ·) := by
  induction words with
  | nil => rfl
  | cons letters words ih =>
    obtain ⟨hletters, hwords⟩ := List.forall_mem_cons.1 h
    cases letters with
    | nil => simp [isPlain] at hletters
    | cons c rest =>
      obtain ⟨hc, hrest⟩ := isPlain_cons.1 hletters
      obtain ⟨hupper, hlower, -⟩ := Text.toUpper_of_isLower hc
      rw [List.map_cons, capitalize, List.flatten_cons, List.flatMap_append, List.flatMap_cons,
        flatMap_fieldChar hrest, ih hwords]
      simp [fieldChar, hupper, hlower]

theorem fieldName_capitalize {first : List Char} {others : List (List Char)}
    (hfirst : isPlain first = true) (hothers : ∀ letters ∈ others, isPlain letters = true) :
    fieldName ((first :: others).map capitalize).flatten = ['_'].intercalate (first :: others) := by
  have hjoin : ∀ first : List Char,
      ['_'].intercalate (first :: others) = first ++ others.flatMap ('_' :: ·) := by
    clear hothers
    induction others with
    | nil => simp
    | cons next others ih => simp [List.intercalate_cons_cons, ih]
  rw [hjoin]
  cases first with
  | nil => simp [isPlain] at hfirst
  | cons c rest =>
    obtain ⟨hc, hrest⟩ := isPlain_cons.1 hfirst
    obtain ⟨hupper, hlower, -⟩ := Text.toUpper_of_isLower hc
    rw [List.map_cons, capitalize, List.flatten_cons, List.cons_append, fieldName,
      List.flatMap_append, flatMap_fieldChar hrest, flatMap_fieldChar_capitalize hothers]
    simp [fieldChar, hupper, hlower]

/-- A phrase whose only keywords are a `Not` and a `Like` at its end compares the field that its other
words name. -/
theorem parts_of_markers {first : List Char} {others : List (List Char)}
    (hothers : ∀ word ∈ others, keyword? word ≠ some .negate ∧ keyword? word ≠ some .like)
    {negated like : Bool} :
    Phrase.parts (first :: (others ++ (if negated then ["Not".toList] else []) ++
        if like then ["Like".toList] else [])) =
      (if negated then [.negate] else []) ++
        [.compare (if like then .like else .eq)
          (String.ofList (fieldName (first :: others).flatten))] := by
  have hwords : others.filter
      (fun word => keyword? word ≠ some .negate ∧ keyword? word ≠ some .like) = others :=
    List.filter_eq_self.2 fun word hmem => decide_eq_true (hothers word hmem)
  have hkept : others.filter (fun word => keyword? word ≠ some .negate) = others :=
    List.filter_eq_self.2 fun word hmem => decide_eq_true (hothers word hmem).1
  have hcount : others.countP (fun word => keyword? word = some .negate) = 0 :=
    List.countP_eq_zero.2 fun word hmem => by simpa using (hothers word hmem).1
  have hlast : others.getLast?.any (fun word => keyword? word = some .like) = false := by
    cases hlast : others.getLast? with
    | none => rfl
    | some word => simpa using (hothers word (List.mem_of_getLast? hlast)).2
  -- Of the two markers no more is needed than which keywords they are.
  have hnot : keyword? "Not".toList = some .negate := by decide
  have hlike : keyword? "Like".toList = some .like := by decide
  generalize "Not".toList = notWord at hnot ⊢
  generalize "Like".toList = likeWord at hlike ⊢
  rw [Phrase.parts, if_neg (List.cons_ne_nil _ _)]
  simp only [Phrase.negations, Phrase.comparison, Phrase.isLike, Phrase.fieldWords, List.tail_cons,
    List.filter_append, List.countP_append, hwords, hkept, hcount]
  cases negated <;> cases like <;> simp [hnot, hlike, hlast]

/-! ### Criteria -/

/-- A word of a field name. A connective is none. -/
structure FieldWord where
  letters : List Char
  plain : isPlain letters = true := by decide
  no_connective : letters ≠ "and".toList ∧ letters ≠ "or".toList := by decide

/-- One comparison to be spelled. The first word of its field may be any, the others are told from
`Not` and `Like`. -/
structure Criterion where
  first : FieldWord
  others : List FieldWord := []
  negated : Bool := false
  like : Bool := false
  others_plain : ∀ word ∈ others, word.letters ≠ "not".toList ∧ word.letters ≠ "like".toList := by
    decide

namespace Criterion

def field (c : Criterion) : String :=
  String.ofList (['_'].intercalate ((c.first :: c.others).map FieldWord.letters))

def words (c : Criterion) : List (List Char) :=
  (c.first :: c.others).map (fun word => capitalize word.letters) ++
    (if c.negated then ["Not".toList] else []) ++ if c.like then ["Like".toList] else []

def test (c : Criterion) : Test := if c.like then .like else .eq

/-- What the argument of a criterion is compared as: a string to be matched is a pattern. -/
def operand (c : Criterion) (argument : Operand) : Operand :=
  match c.like, argument with
  | true, .string source => .pattern ⟨source⟩
  | _, _ => argument

def steps (c : Criterion) (argument : Operand) : List Step :=
  (if c.negated then [⟨.negate, none⟩] else []) ++
    [⟨.compare c.test (some c.field), some (c.operand argument)⟩]

theorem capitalized_of_mem {c : Criterion} {word : List Char} (h : word ∈ c.words) :
    ∃ letters, isPlain letters = true ∧ word = capitalize letters := by
  simp only [words, List.mem_append, List.mem_map] at h
  rcases h with (⟨field, -, rfl⟩ | hnot) | hlike
  · exact ⟨field.letters, field.plain, rfl⟩
  · refine ⟨"not".toList, by decide, ?_⟩
    cases hnegated : c.negated <;> simp [hnegated] at hnot
    exact hnot
  · refine ⟨"like".toList, by decide, ?_⟩
    cases hmatched : c.like <;> simp [hmatched] at hlike
    exact hlike

theorem plain_of_mem {c : Criterion} {word : List Char} (h : word ∈ c.words) :
    connective? word = none := by
  simp only [words, List.mem_append, List.mem_map] at h
  rcases h with (⟨field, -, rfl⟩ | hnot) | hlike
  · rw [connective?_eq_none_iff]
    intro connective hkeyword
    rw [keyword?_capitalize field.plain] at hkeyword
    cases connective with
    | and => exact field.no_connective.1 hkeyword
    | or => exact field.no_connective.2 hkeyword
  · cases hnegated : c.negated <;> simp [hnegated] at hnot
    subst hnot
    decide
  · cases hmatched : c.like <;> simp [hmatched] at hlike
    subst hlike
    decide

theorem words_ne_nil (c : Criterion) : c.words ≠ [] := by simp [words]

theorem parts_words (c : Criterion) :
    Phrase.parts c.words =
      (if c.negated then [.negate] else []) ++ [.compare c.test c.field] := by
  have hothers : ∀ word ∈ c.others.map fun word => capitalize word.letters,
      keyword? word ≠ some .negate ∧ keyword? word ≠ some .like := by
    intro word hmem
    obtain ⟨field, hfield, rfl⟩ := List.mem_map.1 hmem
    rw [Ne, Ne, keyword?_capitalize field.plain, keyword?_capitalize field.plain]
    exact c.others_plain field hfield
  have hplain : ∀ letters ∈ c.others.map FieldWord.letters, isPlain letters = true := by
    intro letters hmem
    obtain ⟨field, -, rfl⟩ := List.mem_map.1 hmem
    exact field.plain
  have hfield := fieldName_capitalize c.first.plain hplain
  rw [List.map_cons, List.map_map] at hfield
  rw [words, List.map_cons, List.cons_append, List.cons_append, parts_of_markers hothers, test, field,
    List.map_cons, ← hfield]
  rfl

end Criterion

/-! ### Names -/

def connectiveWord : Connective → List Char
  | .and => "And".toList
  | .or => "Or".toList

/-- Criteria as they are spelled, with the connectives between them. -/
def spell (first : Criterion) (others : List (Connective × Criterion)) : List (List Char) :=
  first.words ++ others.flatMap fun (connective, c) => connectiveWord connective :: c.words

/-- A query to be spelled. One without a limit must not seem to end in one. -/
structure Wording where
  opening : List Char
  multiplicity : Multiplicity
  first : Criterion
  others : List (Connective × Criterion) := []
  limited : Bool := false
  known : (opening, multiplicity) ∈ openings := by decide
  unlimited : limited = false → (spell first others).getLast? ≠ some "Limit".toList := by decide

namespace Wording

def words (w : Wording) : List (List Char) :=
  spell w.first w.others ++ if w.limited then ["Limit".toList] else []

def name (w : Wording) : String := String.ofList (w.opening ++ w.words.flatten)

def size (w : Wording) : Nat := w.others.length + 1

/-- The steps of a query without its limit, given the arguments of its comparisons. -/
def steps (w : Wording) : List Operand → List Step
  | [] => []
  | argument :: arguments =>
    w.first.steps argument ++ (w.others.zip arguments).flatMap fun ((connective, c), argument) =>
      ⟨.connect connective none, none⟩ :: c.steps argument

def sentence (w : Wording) : Sentence :=
  ⟨w.first.words,
    w.others.map fun (connective, c) => ⟨connectiveWord connective, connective, c.words⟩⟩

theorem connective?_connectiveWord (connective : Connective) :
    connective? (connectiveWord connective) = some connective := by
  cases connective <;> decide

theorem exists_of_mem_phrases {w : Wording} {phrase : Phrase} (h : phrase ∈ w.sentence.phrases) :
    ∃ c : Criterion, phrase = c.words := by
  simp only [Sentence.phrases, sentence, List.map_map, List.mem_cons, List.mem_map] at h
  rcases h with rfl | ⟨⟨connective, c⟩, -, rfl⟩
  · exact ⟨w.first, rfl⟩
  · exact ⟨c, rfl⟩

theorem isCut_sentence (w : Wording) : w.sentence.IsCut (spell w.first w.others) := by
  refine ⟨?_, ?_, ?_⟩
  · simp [spell, sentence, List.flatMap_map]
  · intro joint hmem
    obtain ⟨⟨connective, c⟩, -, rfl⟩ := List.mem_map.1 hmem
    exact connective?_connectiveWord connective
  · intro phrase hmem word hword
    obtain ⟨c, rfl⟩ := exists_of_mem_phrases hmem
    exact Criterion.plain_of_mem hword

theorem capitalized_of_mem {w : Wording} {word : List Char} (h : word ∈ w.words) :
    ∃ letters, isPlain letters = true ∧ word = capitalize letters := by
  simp only [words, spell, List.mem_append, List.mem_flatMap, List.mem_cons] at h
  rcases h with (hfirst | ⟨⟨connective, c⟩, -, rfl | hword⟩) | hlimit
  · exact Criterion.capitalized_of_mem hfirst
  · cases connective with
    | and => exact ⟨"and".toList, by decide, rfl⟩
    | or => exact ⟨"or".toList, by decide, rfl⟩
  · exact Criterion.capitalized_of_mem hword
  · refine ⟨"limit".toList, by decide, ?_⟩
    cases hlimited : w.limited <;> simp [hlimited] at hlimit
    exact hlimit

theorem isLimited_words (w : Wording) : isLimited w.words = w.limited := by
  rw [isLimited]
  cases hlimited : w.limited with
  | true =>
    have hlast : w.words.getLast? = some "Limit".toList := by
      rw [words, hlimited, if_pos rfl, List.getLast?_concat]
    rw [hlast]
    decide
  | false =>
    have hwords : w.words = spell w.first w.others := by simp [words, hlimited]
    cases hlast : w.words.getLast? with
    | none => rfl
    | some word =>
      obtain ⟨letters, hplain, rfl⟩ := capitalized_of_mem (List.mem_of_getLast? hlast)
      rw [Option.any_some, decide_eq_false_iff_not, keyword?_capitalize hplain]
      rintro rfl
      rw [hwords] at hlast
      exact w.unlimited hlimited hlast

theorem body_words (w : Wording) : body w.words = spell w.first w.others := by
  rw [body, isLimited_words, words]
  cases w.limited <;> simp

theorem read_name (w : Wording) (collection : String) :
    read collection w.name =
      .ok ⟨collection, w.name, w.multiplicity, w.sentence.parts ++ limitParts w.limited⟩ := by
  have hsplit : splitWords w.words.flatten = w.words :=
    (isSplit_flatten fun word hmem => capitalized_of_mem hmem).splitWords_eq
  have hnonempty : ∀ word ∈ w.words, word ≠ [] := by
    rw [← hsplit]
    exact (isSplit_splitWords _).nonempty
  have hcriteria : w.words.flatten ≠ [] := by
    rw [Ne, ← splitWords_eq_nil_iff, hsplit]
    simp [words, spell, w.first.words_ne_nil]
  have hsentence : Sentence.cut (body w.words) = w.sentence := by
    rw [body_words, w.isCut_sentence.cut_eq]
  have hdangling : (Sentence.cut (body w.words)).dangling? = none := by
    rw [hsentence, Sentence.dangling?_eq_none_iff]
    intro junction hmem
    obtain ⟨c, hphrase⟩ := exists_of_mem_phrases (List.of_mem_zip hmem).1
    rw [hphrase]
    exact c.words_ne_nil
  have hname : w.name.toList = w.opening ++ w.words.flatten := String.toList_ofList
  have hread := read_append w.known hname collection
  rw [if_neg hcriteria, hsplit, readParts_of_dangling?_eq_none hnonempty hdangling, hsentence,
    isLimited_words] at hread
  exact hread

/-! ### Arguments -/

theorem arity_parts (w : Wording) (collection : String) :
    (Finder.mk collection w.name w.multiplicity
      (w.sentence.parts ++ limitParts w.limited)).arity = w.size + if w.limited then 1 else 0 := by
  rw [arity, Sentence.countP_takesArgument]
  congr 1
  rw [List.countP_eq_length.2]
  · simp [Sentence.phrases, sentence, size]
  · intro phrase hmem
    obtain ⟨c, rfl⟩ := exists_of_mem_phrases hmem
    simpa using c.words_ne_nil

theorem bindParts_criterion (name : String) (c : Criterion) (parts : List FinderPart)
    (argument : Operand) (arguments : List Operand) :
    bindParts name (Phrase.parts c.words ++ parts) (argument :: arguments) =
      (bindParts name parts arguments).map (c.steps argument ++ ·) := by
  have hoperand : operandFor c.test argument = c.operand argument := by
    cases hlike : c.like <;> cases argument <;>
      simp [operandFor, Criterion.test, Criterion.operand, hlike, Operand.like]
  rw [c.parts_words, Criterion.steps]
  cases c.negated with
  | false => simp [bindParts, hoperand]
  | true =>
    simp only [if_true, List.cons_append, List.nil_append, bindParts, hoperand]
    cases bindParts name parts arguments <;> rfl

theorem bindParts_sentence (name : String) (w : Wording) (parts : List FinderPart)
    {arguments : List Operand} (h : w.size ≤ arguments.length) :
    bindParts name (w.sentence.parts ++ parts) arguments =
      (bindParts name parts (arguments.drop w.size)).map (w.steps arguments ++ ·) := by
  -- Every criterion uses up the first argument, so the induction is for all lists of arguments.
  have hothers : ∀ (others : List (Connective × Criterion)) (arguments : List Operand),
      others.length ≤ arguments.length →
      bindParts name ((others.flatMap fun (connective, c) =>
          .connect connective :: Phrase.parts c.words) ++ parts) arguments =
        (bindParts name parts (arguments.drop others.length)).map
          (((others.zip arguments).flatMap fun ((connective, c), argument) =>
            ⟨.connect connective none, none⟩ :: c.steps argument) ++ ·) := by
    intro others
    induction others with
    | nil =>
      intro arguments _
      cases hparts : bindParts name parts arguments <;> simp [hparts, Except.map]
    | cons other others ih =>
      intro arguments hlength
      cases arguments with
      | nil => simp at hlength
      | cons argument arguments =>
        have hrest := ih arguments (by simpa using hlength)
        rw [List.flatMap_cons, List.append_assoc, List.cons_append, bindParts,
          bindParts_criterion, hrest]
        simp only [List.length_cons, List.drop_succ_cons]
        cases bindParts name parts (arguments.drop others.length) <;> simp [Except.map]
  cases arguments with
  | nil => simp [size] at h
  | cons argument arguments =>
    have hrest := hothers w.others arguments (by simpa [size] using h)
    have hparts : w.sentence.parts = Phrase.parts w.first.words ++
        w.others.flatMap fun (connective, c) => .connect connective :: Phrase.parts c.words := by
      simp [Sentence.parts, sentence, List.flatMap_map]
    rw [hparts, List.append_assoc, bindParts_criterion, hrest, steps, size, List.drop_succ_cons]
    cases bindParts name parts (arguments.drop w.others.length) <;> simp [Except.map]

theorem bindParts_limitParts (name : String) (w : Wording) {arguments : List Operand}
    {cap : Option Nat} (hlength : arguments.length = w.size + if w.limited then 1 else 0)
    (hsome : cap.isSome = w.limited)
    (hcap : cap = if w.limited then arguments.getLast?.bind Operand.count? else none) :
    bindParts name (limitParts w.limited) (arguments.drop w.size) =
        .ok (cap.toList.map fun n => ⟨.limit, some (.number (.ofCount n))⟩) ∧
      ∀ n, cap = some n → n < 2 ^ 64 := by
  cases hlimited : w.limited with
  | false =>
    simp [hlimited] at hsome
    simp [hsome, limitParts, bindParts]
  | true =>
    rw [hlimited, if_pos rfl] at hlength hcap
    obtain ⟨n, rfl⟩ := Option.isSome_iff_exists.1 (hsome.trans hlimited)
    obtain ⟨last, hlast, hcount⟩ := Option.bind_eq_some_iff.1 hcap.symm
    obtain ⟨number, -, hnumber⟩ := Option.bind_eq_some_iff.1 hcount
    have hdrop : arguments.drop w.size = [last] := by
      rw [List.getLast?_eq_getElem?, show arguments.length - 1 = w.size by omega] at hlast
      obtain ⟨hlt, rfl⟩ := List.getElem?_eq_some_iff.1 hlast
      rw [List.drop_eq_getElem_cons hlt, List.drop_eq_nil_of_le (by omega)]
    refine ⟨by simp [limitParts, hdrop, bindParts, hcount, Except.map], ?_⟩
    rintro _ ⟨⟩
    exact Number.toCount?_lt hnumber

theorem capOf_of_mem_steps {w : Wording} {arguments : List Operand} {step : Step}
    (h : step ∈ w.steps arguments) : Program.capOf step = none := by
  have hcriterion : ∀ (c : Criterion) (argument : Operand),
      ∀ step ∈ c.steps argument, Program.capOf step = none := by
    intro c argument step hmem
    rw [Criterion.steps] at hmem
    cases hnegated : c.negated <;> simp [hnegated] at hmem
    · rw [hmem]
      rfl
    · rcases hmem with rfl | rfl <;> rfl
  cases arguments with
  | nil => simp [steps] at h
  | cons argument arguments =>
    simp only [steps, List.mem_append, List.mem_flatMap, List.mem_cons] at h
    rcases h with hfirst | ⟨⟨⟨connective, c⟩, other⟩, -, rfl | hmem⟩
    · exact hcriterion w.first argument step hfirst
    · rfl
    · exact hcriterion c other step hmem

/-- Every query that can be spelled is read back from its name, and takes one argument for each
comparison and one for its limit. Bound to that many, the last of which stands for a count where there
is a limit, it has exactly the steps that it spells. -/
theorem bind_spelled (w : Wording) (collection : String) :
    ∃ finder, read collection w.name = .ok finder ∧ finder.multiplicity = w.multiplicity ∧
      finder.arity = w.size + (if w.limited then 1 else 0) ∧
      ∀ arguments : List Operand, arguments.length = finder.arity →
        ∀ cap : Option Nat, cap.isSome = w.limited →
          cap = (if w.limited then arguments.getLast?.bind Operand.count? else none) →
          ∃ program, finder.bind arguments = .ok program ∧
            program.collection = some collection ∧
            program.steps = w.steps arguments ++
              cap.toList.map (fun n => ⟨.limit, some (.number (.ofCount n))⟩) ∧
            program.cap = cap := by
  refine ⟨_, w.read_name collection, rfl, w.arity_parts collection, ?_⟩
  intro arguments hlength cap hsome hcap
  have htotal := hlength.trans (w.arity_parts collection)
  have hsize : w.size ≤ arguments.length := by omega
  obtain ⟨hlimit, hcount⟩ := bindParts_limitParts w.name w htotal hsome hcap
  have hparts := bindParts_sentence w.name w (limitParts w.limited) hsize
  rw [hlimit] at hparts
  let limitSteps : List Step := cap.toList.map fun n => ⟨.limit, some (.number (.ofCount n))⟩
  refine ⟨(w.steps arguments ++ limitSteps).foldl Program.push (.on collection), ?_, ?_, ?_, ?_⟩
  · rw [bind, if_neg (not_not_intro hlength), hparts]
    rfl
  · rw [Program.collection_foldl_push]
    rfl
  · rw [Program.steps_foldl_push]
    rfl
  · have hnone : (w.steps arguments).reverse.findSome? Program.capOf = none := by
      rw [List.findSome?_eq_none_iff]
      exact fun step hmem => capOf_of_mem_steps (List.mem_reverse.1 hmem)
    rw [Program.cap_foldl_push, List.reverse_append, List.findSome?_append, hnone]
    cases cap with
    | none => rfl
    | some n =>
      have hcapOf := Program.capOf_limit (hcount n rfl)
      simp [limitSteps, hcapOf]

/-- Keywords name fields where they come first, and a string is a pattern only where it is matched. -/
theorem bind_spelled_keyword_fields :
    ∃ finder program,
      read "people" "findOneByNotA1NotLikeOrLimitAndLikeLikeLimit" = .ok finder ∧
      finder.bind [.string "x%", .string "y%", .null, .number (.integer 5)] = .ok program ∧
      program.steps =
        [⟨.negate, none⟩, ⟨.compare .like (some "not_a1"), some (.like "x%")⟩,
          ⟨.connect .or none, none⟩, ⟨.compare .eq (some "limit"), some (.string "y%")⟩,
          ⟨.connect .and none, none⟩, ⟨.compare .like (some "like"), some .null⟩,
          ⟨.limit, some (.number (.ofCount 5))⟩] ∧
      program.cap = some 5 := by
  let w : Wording :=
    { opening := "findOneBy".toList
      multiplicity := .one
      first := { first := ⟨"not".toList, by decide, by decide⟩
                 others := [⟨"a1".toList, by decide, by decide⟩], negated := true, like := true }
      others := [(.or, { first := ⟨"limit".toList, by decide, by decide⟩ }),
        (.and, { first := ⟨"like".toList, by decide, by decide⟩, like := true })]
      limited := true }
  obtain ⟨finder, hread, -, harity, hbind⟩ := bind_spelled w "people"
  obtain ⟨program, hprogram, -, hsteps, hcap⟩ :=
    hbind [.string "x%", .string "y%", .null, .number (.integer 5)] harity.symm (some 5) rfl
      (by decide)
  exact ⟨finder, program, hread, hprogram, hsteps, hcap⟩

end Wording

end RecordStore.Finder
