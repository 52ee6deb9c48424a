import RecordStore.Finder.Basic

/-!
# Splitting names

The words of a text are the one way to cut it into pieces that begin with a capital and have no
other, the first piece apart, which may begin with anything. And a name with one of the known
beginnings is cut behind that beginning: no other of them fits.
-/

namespace RecordStore.Finder

/-! ### Words -/

/-- What it means that a text is cut in front of its capitals. -/
structure IsSplit (text : List Char) (words : List (List Char)) : Prop where
  whole : words.flatten = text
  nonempty : ∀ word ∈ words, word ≠ []
  capital : ∀ word ∈ words.tail, word.head?.any Text.isUppercase = true
  small : ∀ word ∈ words, ∀ c ∈ word.tail, Text.isUppercase c = false

theorem splitWords_eq_nil_iff {text : List Char} : splitWords text = [] ↔ text = [] := by
  cases text with
  | nil => simp [splitWords]
  | cons c rest =>
    rw [splitWords]
    split
    · simp
    · split <;> simp

theorem splitWords_append {c : Char} {small rest : List Char}
    (hsmall : ∀ d ∈ small, Text.isUppercase d = false)
    (hrest : rest.head?.all Text.isUppercase = true) :
    splitWords (c :: small ++ rest) = (c :: small) :: splitWords rest := by
  induction small generalizing c with
  | nil =>
    rw [List.singleton_append, splitWords]
    cases hwords : splitWords rest with
    | nil => rfl
    | cons word words =>
      cases rest with
      | nil => simp [splitWords] at hwords
      | cons d rest =>
        have hd : Text.isUppercase d = true := by simpa using hrest
        simp [hd]
  | cons d small ih =>
    obtain ⟨hd, hsmall⟩ := List.forall_mem_cons.1 hsmall
    rw [List.cons_append, splitWords, ih hsmall]
    simp [hd]

theorem IsSplit.splitWords_eq {text : List Char} {words : List (List Char)}
    (h : IsSplit text words) : splitWords text = words := by
  obtain ⟨rfl, hnonempty, hcapital, hsmall⟩ := h
  induction words with
  | nil => rfl
  | cons word words ih =>
    obtain ⟨hword, hwords⟩ := List.forall_mem_cons.1 hnonempty
    obtain ⟨hfirst, hothers⟩ := List.forall_mem_cons.1 hsmall
    rw [List.tail_cons] at hcapital
    have hrest : words.flatten.head?.all Text.isUppercase = true := by
      cases words with
      | nil => rfl
      | cons next words =>
        obtain ⟨d, next, rfl⟩ := List.exists_cons_of_ne_nil (hwords next List.mem_cons_self)
        simpa using hcapital (d :: next) List.mem_cons_self
    obtain ⟨c, small, rfl⟩ := List.exists_cons_of_ne_nil hword
    rw [List.tail_cons] at hfirst
    rw [List.flatten_cons, splitWords_append hfirst hrest,
      ih hwords (fun other hmem => hcapital other (List.mem_of_mem_tail hmem)) hothers]

theorem isSplit_splitWords (text : List Char) : IsSplit text (splitWords text) := by
  induction text with
  | nil => exact ⟨rfl, by simp [splitWords], by simp [splitWords], by simp [splitWords]⟩
  | cons c rest ih =>
    rw [splitWords]
    cases hwords : splitWords rest with
    | nil =>
      have hrest : rest = [] := splitWords_eq_nil_iff.1 hwords
      subst hrest
      exact ⟨rfl, by simp, by simp, by simp⟩
    | cons word words =>
      rw [hwords] at ih
      obtain ⟨hwhole, hnonempty, hcapital, hsmall⟩ := ih
      obtain ⟨hword, hnonempty⟩ := List.forall_mem_cons.1 hnonempty
      obtain ⟨hfirst, hothers⟩ := List.forall_mem_cons.1 hsmall
      obtain ⟨d, word, rfl⟩ := List.exists_cons_of_ne_nil hword
      -- The next character opens the first word of the rest.
      have hhead : rest.head? = some d := by rw [← hwhole]; rfl
      rw [List.tail_cons] at hcapital hfirst
      simp only [hhead, Option.any_some]
      split
      · rename_i hd
        refine ⟨congrArg (c :: ·) hwhole, ?_, ?_, ?_⟩
        · simpa using hnonempty
        · rw [List.tail_cons]
          exact List.forall_mem_cons.2 ⟨hd, hcapital⟩
        · exact List.forall_mem_cons.2 ⟨by simp, List.forall_mem_cons.2 ⟨hfirst, hothers⟩⟩
      · rename_i hd
        refine ⟨congrArg (c :: ·) hwhole, ?_, hcapital, ?_⟩
        · simpa using hnonempty
        · refine List.forall_mem_cons.2 ⟨?_, hothers⟩
          rw [List.tail_cons]
          exact List.forall_mem_cons.2 ⟨eq_false_of_ne_true hd, hfirst⟩

/-! ### Beginnings -/

theorem splitOpening?_append {opening : List Char} {multiplicity : Multiplicity}
    (h : (opening, multiplicity) ∈ openings) (criteria : List Char) :
    splitOpening? (opening ++ criteria) = some (multiplicity, criteria) := by
  simp only [openings, List.mem_cons, Prod.mk.injEq, List.not_mem_nil, or_false] at h
  rcases h with ⟨rfl, rfl⟩ | ⟨rfl, rfl⟩ | ⟨rfl, rfl⟩
  · rfl
  · rfl
  · rfl

/-- A name with a known beginning is read as its words are, if it has any. -/
theorem read_append {opening : List Char} {multiplicity : Multiplicity}
    (h : (opening, multiplicity) ∈ openings) {name : String} {criteria : List Char}
    (hname : name.toList = opening ++ criteria) (collection : String) :
    read collection name =
      if criteria = [] then .error (.noCriteria name)
      else
        match readParts {} (splitWords criteria) with
        | .ok parts => .ok ⟨collection, name, multiplicity, parts⟩
        | .error word => .error (.danglingConnective name (String.ofList word)) := by
  have hopening : splitOpening? name.toList = some (multiplicity, criteria) := by
    rw [hname, splitOpening?_append h]
  unfold read
  split
  · rename_i hnone
    rw [hopening] at hnone
    cases hnone
  · rename_i hsome
    rw [hopening] at hsome
    cases hsome
    rfl

end RecordStore.Finder
