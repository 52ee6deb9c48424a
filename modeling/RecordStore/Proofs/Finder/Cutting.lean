import Mathlib.Data.String.Basic
import RecordStore.Finder.Lemmas

/-!
# Cutting a text in one pass

The words of a text are defined by recursion on its characters. They can also be cut out of the text
while it is read once, from the left. The characters come with the byte offsets at which they begin,
and the pass remembers at which offset the word began that it is in. A capital further on ends that
word, and the end of the text ends the last one. What the pass gives are pairs of byte offsets. A
character may take up several bytes, so that not every pair of offsets has a piece of the text
between them.

Those of the pass do, and the pieces are the words. When the pass has read a part of the text, it
has the places of all but the last word of that part, and knows where the last one begins. Every
character keeps it so: a capital is a new last word, and any other character joins the last word
there is.
-/

namespace RecordStore.Finder

open String (utf8Len)

/-! ### The pass -/

/-- The characters of a text with the offsets at which they begin, the first of them given. -/
def offsets (start : Nat) : List Char → List (Nat × Char)
  | [] => []
  | c :: rest => (start, c) :: offsets (start + c.utf8Size) rest

/-- What a pass knows: the offset at which the present word begins, and the places of the words
before it. -/
structure Pass where
  start : Nat := 0
  closed : List (Nat × Nat) := []

namespace Pass

/-- A capital ends the present word, unless the word begins with it. -/
def step (pass : Pass) : Nat × Char → Pass
  | (offset, c) =>
    if Text.isUppercase c ∧ pass.start < offset then
      ⟨offset, pass.closed ++ [(pass.start, offset)]⟩
    else pass

def finish (pass : Pass) (last : Nat) : List (Nat × Nat) :=
  if pass.start < last then pass.closed ++ [(pass.start, last)] else pass.closed

end Pass

/-- The places of the words of a text, each from its first byte to the byte behind its last. -/
def spans (text : String) : List (Nat × Nat) :=
  ((offsets 0 text.toList).foldl Pass.step {}).finish text.utf8ByteSize

/-- The piece of a text at a place. There is one if both offsets are boundaries of characters, the
second not in front of the first. -/
def piece? (text : String) (place : Nat × Nat) : Option String := do
  let first ← text.pos? ⟨place.1⟩
  let last ← text.pos? ⟨place.2⟩
  return (← text.slice? first last).copy

/-! ### Words that grow -/

theorem IsSplit.concat_capital {text : List Char} {words : List (List Char)}
    (h : IsSplit text words) {c : Char} (hc : Text.isUppercase c = true) :
    IsSplit (text ++ [c]) (words ++ [[c]]) := by
  obtain ⟨rfl, hnonempty, hcapital, hsmall⟩ := h
  refine ⟨by simp, ?_, ?_, ?_⟩
  · exact List.forall_mem_append.2 ⟨hnonempty, by simp⟩
  · cases words with
    | nil => simp
    | cons first others => exact List.forall_mem_append.2 ⟨hcapital, by simpa using hc⟩
  · exact List.forall_mem_append.2 ⟨hsmall, by simp⟩

theorem IsSplit.concat_small {text word : List Char} {words : List (List Char)}
    (h : IsSplit text (words ++ [word])) {c : Char} (hc : Text.isUppercase c = false) :
    IsSplit (text ++ [c]) (words ++ [word ++ [c]]) := by
  obtain ⟨rfl, hnonempty, hcapital, hsmall⟩ := h
  obtain ⟨hothers, hword⟩ := List.forall_mem_append.1 hnonempty
  obtain ⟨hsmallOthers, hsmallWord⟩ := List.forall_mem_append.1 hsmall
  obtain ⟨d, small, rfl⟩ := List.exists_cons_of_ne_nil (hword word List.mem_cons_self)
  refine ⟨by simp, ?_, ?_, ?_⟩
  · exact List.forall_mem_append.2 ⟨hothers, by simp⟩
  · cases words with
    | nil => simp
    | cons first others =>
      obtain ⟨htail, hlast⟩ := List.forall_mem_append.1 hcapital
      exact List.forall_mem_append.2 ⟨htail, by simpa using hlast⟩
  · refine List.forall_mem_append.2 ⟨hsmallOthers, List.forall_mem_singleton.2 ?_⟩
    exact List.forall_mem_append.2
      ⟨List.forall_mem_singleton.1 hsmallWord, List.forall_mem_singleton.2 hc⟩

/-! ### Places -/

/-- The places of words that stand one behind the other, the first at the given offset. -/
def places (start : Nat) : List (List Char) → List (Nat × Nat)
  | [] => []
  | word :: rest => (start, start + utf8Len word) :: places (start + utf8Len word) rest

theorem places_concat (start : Nat) (words : List (List Char)) (word : List Char) :
    places start (words ++ [word]) =
      places start words ++
        [(start + utf8Len words.flatten, start + utf8Len words.flatten + utf8Len word)] := by
  induction words generalizing start with
  | nil => simp [places]
  | cons first others ih => simp [places, ih, Nat.add_assoc]

theorem pos?_eq_some_iff {text : String} {offset : String.Pos.Raw} {p : text.Pos} :
    text.pos? offset = some p ↔ p.offset = offset := by
  simp only [String.pos?, String.Slice.pos?, Option.map_eq_some_iff,
    Option.dite_none_right_eq_some]
  constructor
  · rintro ⟨q, ⟨hvalid, hq⟩, rfl⟩
    cases hq
    rfl
  · rintro rfl
    have hvalid : String.Pos.Raw.isValidForSlice text.toSlice p.offset = true := by
      simpa using p.isValid
    exact ⟨_, ⟨hvalid, rfl⟩, rfl⟩

theorem exists_pos?_eq {text before after : String} (h : text = before ++ after) :
    ∃ p, text.pos? ⟨before.utf8ByteSize⟩ = some p ∧ p.Splits before after := by
  have hvalid : String.Pos.Raw.IsValid text ⟨before.utf8ByteSize⟩ :=
    String.Pos.Raw.isValid_iff_exists_append.2 ⟨before, after, h, rfl⟩
  exact ⟨text.pos _ hvalid, pos?_eq_some_iff.2 rfl, h, rfl⟩

theorem piece?_eq_some {text before word after : String} (h : text = before ++ word ++ after) :
    piece? text (before.utf8ByteSize, before.utf8ByteSize + word.utf8ByteSize) = some word := by
  obtain ⟨first, hfirst, hsplits⟩ := exists_pos?_eq (h.trans String.append_assoc)
  obtain ⟨last, hlast, hsplits'⟩ := exists_pos?_eq h
  rw [String.utf8ByteSize_append] at hlast
  obtain ⟨hle, hcopy⟩ := String.copy_slice_eq_iff_splits.2 ⟨before, after, hsplits, hsplits'⟩
  simp [piece?, hfirst, hlast, String.slice?, hle, hcopy]

theorem map_piece?_places {text before : String} {words : List String}
    (h : text.toList = before.toList ++ (words.map String.toList).flatten) :
    (places before.utf8ByteSize (words.map String.toList)).map (piece? text) = words.map some := by
  induction words generalizing before with
  | nil => rfl
  | cons word rest ih =>
    have htext : text = before ++ word ++ String.ofList (rest.map String.toList).flatten := by
      apply String.toList_injective
      simpa using h
    have hrest : text.toList = (before ++ word).toList ++ (rest.map String.toList).flatten := by
      simpa using h
    have hpieces := ih hrest
    rw [String.utf8ByteSize_append] at hpieces
    rw [List.map_cons, places, String.utf8Len_toList, List.map_cons, piece?_eq_some htext, hpieces]
    rfl

theorem isValid_of_piece? {text word : String} {place : Nat × Nat}
    (h : piece? text place = some word) :
    String.Pos.Raw.IsValid text ⟨place.1⟩ ∧ String.Pos.Raw.IsValid text ⟨place.2⟩ := by
  obtain ⟨first, hfirst, h⟩ := Option.bind_eq_some_iff.1 h
  obtain ⟨last, hlast, -⟩ := Option.bind_eq_some_iff.1 h
  rw [← pos?_eq_some_iff.1 hfirst, ← pos?_eq_some_iff.1 hlast]
  exact ⟨first.isValid, last.isValid⟩

/-! ### What the pass keeps -/

/-- What a pass knows when it has read a text: nothing at first, and then where the last word so far
begins, and the places of those before it. -/
inductive Pass.IsAfter : List Char → Pass → Prop
  | nothing : IsAfter [] {}
  | word {text : List Char} {words : List (List Char)} {word : List Char} :
    IsSplit text (words ++ [word]) → IsAfter text ⟨utf8Len words.flatten, places 0 words⟩

namespace Pass

theorem present_place {text word : List Char} {words : List (List Char)}
    (h : IsSplit text (words ++ [word])) :
    utf8Len words.flatten < utf8Len text ∧
      places 0 (words ++ [word]) = places 0 words ++ [(utf8Len words.flatten, utf8Len text)] := by
  have hword : word ≠ [] := h.nonempty word (by simp)
  have hpos : utf8Len word ≠ 0 := mt String.utf8Len_eq_zero.1 hword
  have htext : utf8Len text = utf8Len words.flatten + utf8Len word := by
    rw [← h.whole, List.flatten_concat, String.utf8Len_append]
  rw [places_concat, htext, Nat.zero_add]
  exact ⟨by omega, rfl⟩

theorem IsAfter.step {text : List Char} {pass : Pass} (h : IsAfter text pass) (c : Char) :
    IsAfter (text ++ [c]) (pass.step (utf8Len text, c)) := by
  cases h with
  | nothing =>
    -- The first character begins a word whether it is a capital or not.
    have hsplit : IsSplit [c] ([] ++ [[c]]) := ⟨rfl, by simp, by simp, by simp⟩
    have hstep : Pass.step {} (utf8Len [], c) = {} := by simp [Pass.step]
    rw [hstep]
    exact .word hsplit
  | @word _ words word hsplit =>
    obtain ⟨hlt, hplaces⟩ := present_place hsplit
    rw [Pass.step]
    cases hc : Text.isUppercase c with
    | true =>
      have hflatten : utf8Len text = utf8Len (words ++ [word]).flatten := by rw [hsplit.whole]
      rw [if_pos ⟨rfl, hlt⟩, ← hplaces, hflatten]
      exact .word (hsplit.concat_capital hc)
    | false =>
      rw [if_neg (by simp)]
      exact .word (hsplit.concat_small hc)

theorem IsAfter.run {text : List Char} {pass : Pass} (h : IsAfter text pass) (rest : List Char) :
    IsAfter (text ++ rest) ((offsets (utf8Len text) rest).foldl Pass.step pass) := by
  induction rest generalizing text pass with
  | nil => simpa [offsets] using h
  | cons c rest ih =>
    have hrest := ih (h.step c)
    rw [String.utf8Len_append, List.append_assoc] at hrest
    simpa [offsets] using hrest

theorem IsAfter.finish_eq {text : List Char} {pass : Pass} (h : IsAfter text pass) :
    pass.finish (utf8Len text) = places 0 (splitWords text) := by
  cases h with
  | nothing => rfl
  | @word _ words word hsplit =>
    obtain ⟨hlt, hplaces⟩ := present_place hsplit
    rw [finish, if_pos hlt, hsplit.splitWords_eq, hplaces]

end Pass

theorem spans_eq_places (text : String) : spans text = places 0 (splitWords text.toList) := by
  have hrun := Pass.IsAfter.nothing.run text.toList
  rw [spans, ← String.utf8Len_toList]
  exact hrun.finish_eq

/-- Every text can be cut in one way into words that begin with a capital, the first one apart, and
have no capital further on. The pass gives the places of these words, each from one boundary of
characters to another. -/
theorem cut_in_one_way (text : String) :
    ∃ words : List String,
      words.map String.toList = splitWords text.toList ∧
      (∀ others : List String, IsSplit text.toList (others.map String.toList) ↔ others = words) ∧
      (words = [] ↔ text = "") ∧
      (spans text).map (piece? text) = words.map some ∧
      ∀ place ∈ spans text,
        String.Pos.Raw.IsValid text ⟨place.1⟩ ∧ String.Pos.Raw.IsValid text ⟨place.2⟩ := by
  obtain ⟨words, hwords⟩ :
      ∃ words : List String, words.map String.toList = splitWords text.toList :=
    ⟨(splitWords text.toList).map String.ofList, by simp⟩
  have hsplit : IsSplit text.toList (words.map String.toList) := by
    rw [hwords]
    exact isSplit_splitWords text.toList
  have hwhole : text.toList = "".toList ++ (words.map String.toList).flatten := hsplit.whole.symm
  have hpieces : (spans text).map (piece? text) = words.map some := by
    rw [spans_eq_places, ← hwords]
    exact map_piece?_places hwhole
  refine ⟨words, hwords, ?_, ?_, hpieces, ?_⟩
  · intro others
    constructor
    · intro h
      have hothers : others.map String.toList = words.map String.toList := by
        rw [hwords, h.splitWords_eq]
      exact List.map_injective_iff.2 (fun _ _ => String.toList_injective) hothers
    · rintro rfl
      exact hsplit
  · rw [← String.toList_eq_nil_iff, ← splitWords_eq_nil_iff, ← hwords, List.map_eq_nil_iff]
  · intro place hplace
    have hmem : piece? text place ∈ words.map some := by
      rw [← hpieces]
      exact List.mem_map_of_mem hplace
    obtain ⟨word, -, hword⟩ := List.mem_map.1 hmem
    exact isValid_of_piece? hword.symm

/-- Letters beyond ASCII take up two bytes here, and runs of capitals are words of one letter. -/
example : spans "äÄöURI" = [(0, 2), (2, 6), (6, 7), (7, 8), (8, 9)] := by decide

end RecordStore.Finder
