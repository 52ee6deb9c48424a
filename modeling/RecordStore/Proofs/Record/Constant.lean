import RecordStore.Proofs.Record.Derivation

/-!
# Names of constants

A derivation holds a constant for each field that is found, and one more for the list of their names.
Fields are told apart by the names that they are found under, but their constants are not: whether two
words meet at an underscore or at a capital, and which of the letters of ASCII are capitals, makes no
difference to a constant. It names the words, and names of the same words clash, among them every
spelling of the name of the list.

Names that are written in lower case, with underscores alone between the words, leave nothing to be
lost. Of these only `fields` has a constant that is taken.
-/

namespace RecordStore.Record

/-! ### Characters -/

theorem eq_underscore_of_toUpper {c : Char} (h : c.toUpper = '_') : c = '_' := by
  cases hlower : c.isLower with
  | true =>
    have hcapital := (Text.toUpper_of_isLower hlower).1
    rw [h] at hcapital
    exact absurd hcapital (by decide)
  | false => rwa [Text.toUpper_of_not_isLower hlower] at h

theorem eq_of_map_toUpper_eq {a b : List Char} (ha : ∀ c ∈ a, Text.isUppercase c = false)
    (hb : ∀ c ∈ b, Text.isUppercase c = false) (h : a.map Char.toUpper = b.map Char.toUpper) :
    a = b := by
  induction a generalizing b with
  | nil => exact (List.map_eq_nil_iff.1 h.symm).symm
  | cons c rest ih =>
    obtain ⟨d, others, rfl, hhead, htail⟩ := List.map_eq_cons_iff.1 h.symm
    obtain ⟨hc, hrest⟩ := List.forall_mem_cons.1 ha
    obtain ⟨hd, hothers⟩ := List.forall_mem_cons.1 hb
    rw [Text.eq_of_toUpper_eq hc hd hhead.symm, ih hrest hothers htail.symm]

def isSeparator (c : Char) : Bool := c = '_' ∨ c = '-' ∨ c = ' '

theorem isUppercase_of_isSeparator {c : Char} (h : isSeparator c = true) :
    Text.isUppercase c = false := by
  rcases of_decide_eq_true h with rfl | rfl | rfl
  · decide
  · decide
  · decide

/-! ### The words of a name -/

/-- The words of the rest of a name, in capitals. A word ends at a separator, and in front of a
capital that follows a small letter or a digit. The flag says whether the last character was one of
those. -/
def wordsFrom (afterWord : Bool) : List Char → List (List Char)
  | [] => [[]]
  | c :: rest =>
    if isSeparator c then [] :: wordsFrom false rest
    else if Text.isUppercase c then
      (if afterWord then [[]] else []) ++ (wordsFrom false rest).modifyHead (c :: ·)
    else (wordsFrom (Text.isAlphanumeric c) rest).modifyHead (c.toUpper :: ·)

/-- The words of a name, in capitals. -/
def words (name : String) : List (List Char) := wordsFrom false name.toList

theorem wordsFrom_ne_nil (afterWord : Bool) (name : List Char) : wordsFrom afterWord name ≠ [] := by
  induction name generalizing afterWord with
  | nil => exact List.cons_ne_nil _ _
  | cons c rest ih =>
    rw [wordsFrom]
    split
    · exact List.cons_ne_nil _ _
    · split
      · exact List.append_ne_nil_of_right_ne_nil _ fun h => ih _ (List.modifyHead_eq_nil_iff.1 h)
      · exact fun h => ih _ (List.modifyHead_eq_nil_iff.1 h)

theorem underscore_not_mem_modifyHead {c : Char} (hc : '_' ≠ c) {words : List (List Char)}
    (h : ∀ word ∈ words, '_' ∉ word) : ∀ word ∈ words.modifyHead (c :: ·), '_' ∉ word := by
  cases words with
  | nil => exact h
  | cons first words =>
    obtain ⟨hfirst, hwords⟩ := List.forall_mem_cons.1 h
    exact List.forall_mem_cons.2 ⟨List.not_mem_cons_of_ne_of_not_mem hc hfirst, hwords⟩

theorem underscore_not_mem_wordsFrom (afterWord : Bool) (name : List Char) :
    ∀ word ∈ wordsFrom afterWord name, '_' ∉ word := by
  induction name generalizing afterWord with
  | nil => exact List.forall_mem_singleton.2 List.not_mem_nil
  | cons c rest ih =>
    rw [wordsFrom]
    split
    · exact List.forall_mem_cons.2 ⟨List.not_mem_nil, ih false⟩
    · rename_i hseparator
      have hunderscore : c ≠ '_' := fun hc => hseparator (decide_eq_true (.inl hc))
      split
      · have hbegun := underscore_not_mem_modifyHead hunderscore.symm (ih false)
        cases afterWord with
        | true => exact List.forall_mem_cons.2 ⟨List.not_mem_nil, hbegun⟩
        | false => exact hbegun
      · have hupper : c.toUpper ≠ '_' := fun hc => hunderscore (eq_underscore_of_toUpper hc)
        exact underscore_not_mem_modifyHead hupper.symm (ih (Text.isAlphanumeric c))

theorem intercalate_modifyHead {words : List (List Char)} (h : words ≠ []) (c : Char) :
    List.intercalate ['_'] (words.modifyHead (c :: ·)) = c :: List.intercalate ['_'] words := by
  cases words with
  | nil => exact absurd rfl h
  | cons first rest =>
    cases rest with
    | nil => simp
    | cons second rest => simp [List.intercalate_cons_cons]

theorem constantChars_eq_intercalate (afterWord : Bool) (name : List Char) :
    constantChars afterWord name = List.intercalate ['_'] (wordsFrom afterWord name) := by
  induction name generalizing afterWord with
  | nil => rfl
  | cons c rest ih =>
    rw [constantChars, wordsFrom]
    by_cases hseparator : isSeparator c = true
    -- the word in front of the separator is empty here: what there was of it stands further left
    · rw [if_neg (ne_true_of_eq_false (isUppercase_of_isSeparator hseparator)),
        if_pos (of_decide_eq_true hseparator), if_pos hseparator, ih,
        List.intercalate_cons_of_ne_nil (wordsFrom_ne_nil false rest)]
      rfl
    · have hplain : ¬(c = '_' ∨ c = '-' ∨ c = ' ') := fun h => hseparator (decide_eq_true h)
      rw [if_neg hseparator, if_neg hplain]
      split
      · have hbegun := intercalate_modifyHead (wordsFrom_ne_nil false rest) c
        have hne : (wordsFrom false rest).modifyHead (c :: ·) ≠ [] :=
          fun h => wordsFrom_ne_nil false rest (List.modifyHead_eq_nil_iff.1 h)
        rw [ih, ← hbegun]
        -- behind a word that has begun, the capital opens one of its own
        cases afterWord with
        | true =>
          rw [if_pos rfl, if_pos rfl, List.singleton_append, List.singleton_append,
            List.intercalate_cons_of_ne_nil hne]
          rfl
        | false => rfl
      · rw [ih, intercalate_modifyHead (wordsFrom_ne_nil _ rest)]

/-! ### Names that clash -/

theorem constantName_eq_iff {a b : String} : constantName a = constantName b ↔ words a = words b := by
  rw [constantName, constantName, String.ofList_inj, constantChars_eq_intercalate,
    constantChars_eq_intercalate]
  constructor
  · intro h
    have hsplit := congrArg (List.splitOn '_') h
    rwa [List.splitOn_intercalate '_' (underscore_not_mem_wordsFrom _ _) (wordsFrom_ne_nil _ _),
      List.splitOn_intercalate '_' (underscore_not_mem_wordsFrom _ _) (wordsFrom_ne_nil _ _)]
      at hsplit
  · exact congrArg (List.intercalate ['_'])

/-- Whether a name has neither capitals nor separators other than underscores. -/
def isSnakeCase (name : String) : Bool :=
  name.toList.all fun c => !Text.isUppercase c && c != '-' && c != ' '

theorem constantChars_eq_map (afterWord : Bool) {name : List Char}
    (h : ∀ c ∈ name, Text.isUppercase c = false ∧ c ≠ '-' ∧ c ≠ ' ') :
    constantChars afterWord name = name.map Char.toUpper := by
  induction name generalizing afterWord with
  | nil => rfl
  | cons c rest ih =>
    obtain ⟨⟨hsmall, hhyphen, hblank⟩, hrest⟩ := List.forall_mem_cons.1 h
    rw [constantChars, if_neg (ne_true_of_eq_false hsmall), List.map_cons]
    split
    · rename_i hseparator
      obtain rfl : c = '_' := (hseparator.resolve_right fun hc => hc.elim hhyphen hblank)
      exact congrArg _ (ih _ hrest)
    · exact congrArg _ (ih _ hrest)

theorem forall_mem_of_isSnakeCase {name : String} (h : isSnakeCase name = true) :
    ∀ c ∈ name.toList, Text.isUppercase c = false ∧ c ≠ '-' ∧ c ≠ ' ' := by
  simpa [isSnakeCase, and_assoc] using h

theorem eq_of_constantName_eq {a b : String} (ha : isSnakeCase a = true) (hb : isSnakeCase b = true)
    (h : constantName a = constantName b) : a = b := by
  have hfirst := forall_mem_of_isSnakeCase ha
  have hsecond := forall_mem_of_isSnakeCase hb
  rw [constantName, constantName, String.ofList_inj, constantChars_eq_map _ hfirst,
    constantChars_eq_map _ hsecond] at h
  exact String.toList_inj.1 (eq_of_map_toUpper_eq (fun c hc => (hfirst c hc).1)
    (fun c hc => (hsecond c hc).1) h)

/-! ### The constants of a derivation -/

theorem constantName_fields : constantName "fields" = "FIELDS" := by decide +kernel

theorem nodup_of_deriveFields {fields : List FieldDeclaration} {taken : List String}
    (htaken : taken.Nodup) {derived : List DerivedField}
    (h : deriveFields taken fields = .ok derived) : (derived.map (·.query) ++ taken).Nodup := by
  induction fields generalizing taken derived with
  | nil =>
    cases h
    exact htaken
  | cons field rest ih =>
    obtain ⟨options, -, ⟨-, hrest⟩ | ⟨-, hfresh, others, hrest, rfl⟩⟩ := cases_of_deriveFields_cons h
    · exact ih htaken hrest
    -- the name of the field goes over to those that are taken
    · exact List.nodup_middle.1 (ih (List.nodup_cons.2 ⟨hfresh, htaken⟩) hrest)

namespace Derivation

theorem nodup_fieldNames {description : Description} {d : Derivation}
    (h : derive description = .ok d) : d.fieldNames.Nodup := by
  have hnodup := nodup_of_deriveFields List.nodup_nil (deriveFields_of_derive h)
  rwa [List.append_nil] at hnodup

/-- The names of the constants of a derivation: those that hold the names of the fields, and the one
that lists them. -/
def constantNames (d : Derivation) : List String := d.constants.map Prod.fst ++ ["FIELDS"]

theorem constantNames_eq_map (d : Derivation) :
    d.constantNames = (d.fieldNames ++ ["fields"]).map constantName := by
  rw [constantNames, List.map_append, List.map_singleton, constantName_fields, constants, fieldNames,
    List.map_map, List.map_map]
  rfl

theorem nodup_constantNames_iff_words (d : Derivation) :
    d.constantNames.Nodup ↔ ((d.fieldNames ++ ["fields"]).map words).Nodup := by
  rw [constantNames_eq_map]
  simp only [List.Nodup, List.pairwise_map, ne_eq, constantName_eq_iff]

theorem nodup_constantNames_iff_not_mem {description : Description} {d : Derivation}
    (h : derive description = .ok d) (hsnake : ∀ name ∈ d.fieldNames, isSnakeCase name = true) :
    d.constantNames.Nodup ↔ "fields" ∉ d.fieldNames := by
  have hall : ∀ name ∈ d.fieldNames ++ ["fields"], isSnakeCase name = true :=
    List.forall_mem_append.2 ⟨hsnake, List.forall_mem_singleton.2 (by decide)⟩
  have hdistinct : (d.fieldNames ++ ["fields"]).Nodup ↔ "fields" ∉ d.fieldNames := by
    rw [List.nodup_append_comm, List.singleton_append, List.nodup_cons,
      and_iff_left (nodup_fieldNames h)]
  rw [constantNames_eq_map, ← hdistinct]
  constructor
  · exact List.Nodup.of_map constantName
  · intro hnodup
    exact hnodup.map_on fun a ha b hb => eq_of_constantName_eq (hall a ha) (hall b hb)

end Derivation

/-- The constants of a derivation have names that differ just when the names of its fields, and
`fields` along with them, differ in their words. Fields in lower case always do, unless one of them is
found under the name `fields` itself. -/
theorem nodup_constantNames_iff (description : Description) (d : Derivation)
    (h : derive description = .ok d) :
    (d.constantNames.Nodup ↔ ((d.fieldNames ++ ["fields"]).map words).Nodup) ∧
      ((∀ name ∈ d.fieldNames, isSnakeCase name = true) →
        (d.constantNames.Nodup ↔ "fields" ∉ d.fieldNames)) :=
  ⟨d.nodup_constantNames_iff_words, d.nodup_constantNames_iff_not_mem h⟩

theorem nodup_constantNames_iff_task :
    let description : Description :=
      { shape := .named, name := "Task", fields := [⟨"created_at", []⟩, ⟨"r#type", []⟩] }
    ∃ d, derive description = .ok d ∧ d.constantNames = ["CREATED_AT", "TYPE", "FIELDS"] ∧
      d.constantNames.Nodup := by
  intro description
  refine ⟨⟨[⟨"created_at", "created_at"⟩, ⟨"type", "r#type"⟩], "Task"⟩, ?_, ?_, ?_⟩
  · decide +kernel
  · decide +kernel
  · exact ((nodup_constantNames_iff description _ (by decide +kernel)).2 (by decide)).2 (by decide)

/-- Two fields that differ in a capital and an underscore have the same constant, and so have a field
named `fields` and the list. -/
theorem not_nodup_constantNames_firstName :
    let person : Description :=
      { shape := .named, name := "Person", fields := [⟨"firstName", []⟩, ⟨"first_name", []⟩] }
    let form : Description := { shape := .named, name := "Form", fields := [⟨"fields", []⟩] }
    (∃ d, derive person = .ok d ∧ d.constantNames = ["FIRST_NAME", "FIRST_NAME", "FIELDS"]) ∧
      (∃ d, derive form = .ok d ∧ d.constantNames = ["FIELDS", "FIELDS"]) ∧
      ¬∀ description d, derive description = .ok d → d.constantNames.Nodup := by
  intro person form
  have hperson : derive person =
      .ok ⟨[⟨"firstName", "firstName"⟩, ⟨"first_name", "first_name"⟩], "Person"⟩ := by
    decide +kernel
  refine ⟨⟨_, hperson, by decide +kernel⟩, ⟨⟨[⟨"fields", "fields"⟩], "Form"⟩, ?_, ?_⟩, ?_⟩
  · decide +kernel
  · decide +kernel
  · intro h
    exact absurd (h person _ hperson) (by decide +kernel)

end RecordStore.Record
