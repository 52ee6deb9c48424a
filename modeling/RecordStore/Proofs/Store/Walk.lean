import RecordStore.Proofs.Store.Distinct

/-!
# Walks of a cursor

A cursor knows no more than a position, and between two of its steps the collection under it may grow
at the end, have records replaced where they stand, and close up over those that are taken out. A walk
is a collection with a cursor on it; its moves are the steps of the cursor and the changes to the
collection, in any order.

What a walk has passed is whatever stands below its position, and three lemmas say what a move makes
of it. A step of the cursor adds the record that it delivers. An addition leaves it the same up to
equality. A removal takes away what was there, and lets no more records slip in than it took away.
Removing one record needs no lemma of its own, since among distinct records that is the same as
removing all that equal it.
-/

namespace RecordStore

variable {ρ : Type}

/-- What can happen while a cursor walks a collection. -/
inductive Move (ρ : Type)
  | next
  | add (record : ρ)
  | remove (record : ρ)
  | removeAll (targets : List ρ)

/-- A record that is taken out of a collection, the position at which it stands, and the position
that the cursor has reached by then. -/
structure Removal (ρ : Type) where
  record : ρ
  position : Nat
  reached : Nat

def Removal.behind (removal : Removal ρ) : Bool := removal.position < removal.reached

/-- A collection with a cursor on it. -/
structure Walk (ρ : Type) where
  collection : Collection ρ
  cursor : Cursor := {}

namespace Walk

variable [BEq ρ]

def step (w : Walk ρ) : Move ρ → Walk ρ
  | .next => { w with cursor := (w.cursor.next w.collection).2 }
  | .add record => { w with collection := w.collection.add record }
  | .remove record => { w with collection := w.collection.remove record }
  | .removeAll targets => { w with collection := w.collection.removeAll targets }

def delivery? (w : Walk ρ) : Move ρ → Option ρ
  | .next => (w.cursor.next w.collection).1
  | _ => none

def removals (w : Walk ρ) : Move ρ → List (Removal ρ)
  | .remove record =>
    (w.collection.records.zipIdx.find? fun entry => entry.1 == record).toList.map fun entry =>
      ⟨entry.1, entry.2, w.cursor.position⟩
  | .removeAll targets =>
    (w.collection.records.zipIdx.filter fun entry => targets.any (entry.1 == ·)).map fun entry =>
      ⟨entry.1, entry.2, w.cursor.position⟩
  | .next | .add _ => []

def after (w : Walk ρ) (moves : List (Move ρ)) : Walk ρ := moves.foldl step w

def delivered (w : Walk ρ) : List (Move ρ) → List ρ
  | [] => []
  | move :: rest => (w.delivery? move).toList ++ (w.step move).delivered rest

def removed (w : Walk ρ) : List (Move ρ) → List (Removal ρ)
  | [] => []
  | move :: rest => w.removals move ++ (w.step move).removed rest

/-- The records that stand below the position of the cursor. -/
def passed (w : Walk ρ) : List ρ := w.collection.records.take w.cursor.position

/-- Whether a record that equals the given one has been passed. -/
def hasPassed (w : Walk ρ) (record : ρ) : Bool := w.passed.any (· == record)

end Walk

/-! ### Lists that change -/

namespace Collection

/-- When some records are gone, the first places hold what is left of those that stood there, and
behind it no more records than are gone from these places. -/
theorem exists_take_filter_not (gone : ρ → Bool) (records : List ρ) (k : Nat) :
    ∃ moved, (records.filter (!gone ·)).take k = (records.take k).filter (!gone ·) ++ moved ∧
      moved.length ≤ (records.take k).countP gone := by
  have hsplit : records.filter (!gone ·) =
      (records.take k).filter (!gone ·) ++ (records.drop k).filter (!gone ·) := by
    rw [← List.filter_append, List.take_append_drop]
  have hplaces : (records.take k).length =
      (records.take k).countP gone + ((records.take k).filter (!gone ·)).length := by
    rw [List.length_eq_countP_add_countP gone, ← List.countP_eq_length_filter]
    simp
  have hshort := List.length_take_le k records
  refine ⟨((records.drop k).filter (!gone ·)).take (k - ((records.take k).filter (!gone ·)).length),
    ?_, ?_⟩
  · rw [hsplit, List.take_append, List.take_of_length_le (by omega)]
  · rcases Nat.le_total k records.length with hle | hge
    · have hfirst := List.length_take_le (k - ((records.take k).filter (!gone ·)).length)
        ((records.drop k).filter (!gone ·))
      rw [List.length_take_of_le hle] at hplaces
      omega
    · simp [List.drop_eq_nil_of_le hge]

theorem countP_filter_zipIdx (gone : ρ → Bool) (records : List ρ) (n m : Nat) :
    ((records.zipIdx n).filter fun entry => gone entry.1).countP (fun entry => entry.2 < m) =
      (records.take (m - n)).countP gone := by
  induction records generalizing n with
  | nil => simp
  | cons r rest ih =>
    have hrest := ih (n + 1)
    rw [List.zipIdx_cons, List.filter_cons]
    rcases Nat.lt_or_ge n m with hlt | hge
    · have hsplit : m - n = m - (n + 1) + 1 := by omega
      rw [hsplit, List.take_succ_cons, List.countP_cons, ← hrest]
      cases gone r <;> simp [hlt]
    · rw [Nat.sub_eq_zero_of_le hge]
      rw [Nat.sub_eq_zero_of_le (Nat.le_succ_of_le hge)] at hrest
      have hnot : ¬ n < m := Nat.not_lt.2 hge
      cases gone r <;> simpa [hnot] using hrest

theorem countP_or_le (p q : ρ → Bool) (records : List ρ) :
    records.countP (fun r => p r || q r) ≤ records.countP p + records.countP q := by
  induction records with
  | nil => exact Nat.zero_le 0
  | cons r rest ih =>
    simp only [List.countP_cons]
    cases p r <;> cases q r <;> simp <;> omega

variable [BEq ρ] [PartialEquivBEq ρ] {records : List ρ}

/-- Adding a record does not change which records have an equal one in the first places, unless they
have none in the whole list. -/
theorem any_take_insert {r : ρ} (h : records.any (· == r) = true) (record : ρ) (k : Nat) :
    ((insert record records).take k).any (· == r) = (records.take k).any (· == r) := by
  induction records generalizing k with
  | nil => cases h
  | cons s rest ih =>
    cases k with
    | zero => rfl
    | succ k =>
      rw [insert]
      split
      · rename_i hequal
        rw [List.take_succ_cons, List.take_succ_cons, List.any_cons, List.any_cons,
          BEq.congr_left hequal]
      · rw [List.take_succ_cons, List.take_succ_cons, List.any_cons, List.any_cons]
        cases hs : s == r with
        | true => rfl
        | false =>
          rw [List.any_cons, hs, Bool.false_or] at h
          rw [ih h k]

theorem any_insert {r : ρ} (h : records.any (· == r) = true) (record : ρ) :
    (insert record records).any (· == r) = true := by
  have htake := any_take_insert h record ((insert record records).length + records.length)
  rw [List.take_of_length_le (Nat.le_add_right _ _), List.take_of_length_le (Nat.le_add_left _ _)]
    at htake
  exact htake.trans h

namespace Distinct

theorem find?_zipIdx (h : Distinct records) (record : ρ) (n : Nat) :
    ((records.zipIdx n).find? fun entry => entry.1 == record).toList =
      (records.zipIdx n).filter fun entry => entry.1 == record := by
  induction records generalizing n with
  | nil => rfl
  | cons r rest ih =>
    rw [List.zipIdx_cons, List.find?_cons, List.filter_cons]
    cases hequal : r == record with
    | true =>
      have hothers : ∀ entry ∈ rest.zipIdx (n + 1), ¬ (entry.1 == record) = true := by
        intro entry hentry
        rw [h.ne_of_mem_tail hequal (List.fst_mem_of_mem_zipIdx hentry)]
        exact Bool.false_ne_true
      simp [List.filter_eq_nil_iff.2 hothers]
    | false => exact ih (List.pairwise_cons.1 h).2 (n + 1)

theorem countP_le_one (h : Distinct records) (record : ρ) :
    records.countP (record == ·) ≤ 1 := by
  induction records with
  | nil => exact Nat.zero_le 1
  | cons r rest ih =>
    rw [List.countP_cons]
    cases hequal : record == r with
    | true =>
      have hothers : ∀ s ∈ rest, ¬ (record == s) = true := by
        intro s hs
        rw [BEq.comm, h.ne_of_mem_tail (BEq.symm hequal) hs]
        exact Bool.false_ne_true
      rw [List.countP_eq_zero.2 hothers]
      exact Nat.le_refl 1
    | false => exact ih (List.pairwise_cons.1 h).2

/-- No more of distinct records equal one of a list than there are in the list. -/
theorem countP_any_le (h : Distinct records) (others : List ρ) :
    records.countP (fun r => others.any (· == r)) ≤ others.length := by
  induction others with
  | nil => simp
  | cons s rest ih =>
    calc records.countP (fun r => (s :: rest).any (· == r))
      _ = records.countP (fun r => s == r || rest.any (· == r)) := by simp only [List.any_cons]
      _ ≤ records.countP (s == ·) + records.countP (fun r => rest.any (· == r)) :=
        countP_or_le _ _ records
      _ ≤ 1 + rest.length := Nat.add_le_add (h.countP_le_one s) ih
      _ = (s :: rest).length := Nat.add_comm 1 rest.length

end Distinct

end Collection

namespace Walk

open Collection

section Moves

variable [BEq ρ]

/-! ### What a move makes of the passed records -/

theorem passed_next (w : Walk ρ) :
    (w.step .next).passed = w.passed ++ (w.delivery? .next).toList := by
  rw [passed, passed, step, delivery?, Cursor.next, Collection.get?]
  cases hrecord : w.collection.records[w.cursor.position]? with
  | none => exact (List.append_nil _).symm
  | some record => rw [List.take_add_one, hrecord]

theorem hasPassed_next (w : Walk ρ) (r : ρ) :
    (w.step .next).hasPassed r = (w.hasPassed r || (w.delivery? .next).any (· == r)) := by
  rw [hasPassed, passed_next, List.any_append, ← hasPassed]
  cases w.delivery? .next with
  | none => rfl
  | some record => simp

theorem hasPassed_of_delivery_eq_none {w : Walk ρ} (h : w.delivery? .next = none) (r : ρ) :
    w.hasPassed r = w.collection.contains r := by
  rw [delivery?, Cursor.next, Collection.get?] at h
  cases hrecord : w.collection.records[w.cursor.position]? with
  | none =>
    rw [hasPassed, passed, List.take_of_length_le (List.getElem?_eq_none_iff.1 hrecord),
      Collection.contains]
  | some record =>
    rw [hrecord] at h
    cases h

theorem hasPassed_add [PartialEquivBEq ρ] {w : Walk ρ} {r : ρ}
    (h : w.collection.contains r = true) (record : ρ) :
    (w.step (.add record)).hasPassed r = w.hasPassed r :=
  any_take_insert h record w.cursor.position

theorem countP_behind_removals (w : Walk ρ) (targets : List ρ) :
    (w.removals (.removeAll targets)).countP Removal.behind =
      w.passed.countP fun r => targets.any (r == ·) := by
  rw [removals, List.countP_map]
  exact countP_filter_zipIdx (fun r => targets.any (r == ·)) w.collection.records 0
    w.cursor.position

theorem passed_removeAll (w : Walk ρ) (targets : List ρ) :
    ∃ moved,
      (w.step (.removeAll targets)).passed =
        w.passed.filter (fun r => !targets.any (r == ·)) ++ moved ∧
        moved.length ≤ (w.removals (.removeAll targets)).countP Removal.behind := by
  rw [countP_behind_removals]
  exact exists_take_filter_not (fun r => targets.any (r == ·)) w.collection.records
    w.cursor.position

theorem any_filter_of_kept {w : Walk ρ} {targets : List ρ} {r : ρ}
    (hkept : ∀ removal ∈ w.removals (.removeAll targets), (removal.record == r) = false)
    {part : List ρ} (hpart : part ⊆ w.collection.records) (h : part.any (· == r) = true) :
    (part.filter fun s => !targets.any (s == ·)).any (· == r) = true := by
  obtain ⟨s, hs, hequal⟩ := List.any_eq_true.1 h
  refine List.any_eq_true.2 ⟨s, List.mem_filter.2 ⟨hs, ?_⟩, hequal⟩
  cases htarget : targets.any (s == ·) with
  | false => rfl
  | true =>
    obtain ⟨position, hposition⟩ := List.mem_iff_getElem?.1 (hpart hs)
    have hentry : (s, position) ∈ w.collection.records.zipIdx :=
      List.mk_mem_zipIdx_iff_getElem?.2 hposition
    have hremoval : (⟨s, position, w.cursor.position⟩ : Removal ρ) ∈
        w.removals (.removeAll targets) :=
      List.mem_map_of_mem (List.mem_filter.2 ⟨hentry, htarget⟩)
    have hdifferent := hkept _ hremoval
    rw [hequal] at hdifferent
    cases hdifferent

theorem hasPassed_removeAll {w : Walk ρ} {targets : List ρ} {r : ρ}
    (hkept : ∀ removal ∈ w.removals (.removeAll targets), (removal.record == r) = false)
    (h : w.hasPassed r = true) : (w.step (.removeAll targets)).hasPassed r = true := by
  obtain ⟨moved, hpassed, -⟩ := w.passed_removeAll targets
  have hpart : w.passed ⊆ w.collection.records := List.take_subset _ _
  have hrest := any_filter_of_kept hkept hpart h
  rw [hasPassed, hpassed, List.any_append, hrest, Bool.true_or]

end Moves

/-! ### What a move keeps -/

section Distinct

variable [BEq ρ] [PartialEquivBEq ρ] {w : Walk ρ} {r : ρ} {move : Move ρ}

theorem step_remove (h : Distinct w.collection.records) (record : ρ) :
    w.step (.remove record) = w.step (.removeAll [record]) := by
  rw [step, step, h.remove_eq_removeAll]

theorem removals_remove (h : Distinct w.collection.records) (record : ρ) :
    w.removals (.remove record) = w.removals (.removeAll [record]) := by
  rw [removals, removals, h.find?_zipIdx]
  simp

theorem distinct_step (h : Distinct w.collection.records) (move : Move ρ) :
    Distinct (w.step move).collection.records := by
  cases move with
  | next => exact h
  | add record => exact h.insert record
  | remove record => exact List.Pairwise.eraseP _ h
  | removeAll targets => exact List.Pairwise.filter _ h

theorem contains_step (hdistinct : Distinct w.collection.records)
    (hkept : ∀ removal ∈ w.removals move, (removal.record == r) = false)
    (h : w.collection.contains r = true) : (w.step move).collection.contains r = true := by
  cases move with
  | next => exact h
  | add record => exact any_insert h record
  | remove record =>
    rw [removals_remove hdistinct] at hkept
    rw [step_remove hdistinct]
    exact any_filter_of_kept hkept (fun _ hs => hs) h
  | removeAll targets => exact any_filter_of_kept hkept (fun _ hs => hs) h

/-- A class of equal records stays passed until one of them is taken out. -/
theorem hasPassed_step (hdistinct : Distinct w.collection.records)
    (hkept : ∀ removal ∈ w.removals move, (removal.record == r) = false)
    (h : w.hasPassed r = true) : (w.step move).hasPassed r = true := by
  cases move with
  | next => rw [hasPassed_next, h, Bool.true_or]
  | add record =>
    obtain ⟨s, hs, hequal⟩ := List.any_eq_true.1 h
    have hstored : w.collection.contains r = true :=
      List.any_eq_true.2 ⟨s, List.mem_of_mem_take hs, hequal⟩
    rw [hasPassed_add hstored, h]
  | remove record =>
    rw [removals_remove hdistinct] at hkept
    rw [step_remove hdistinct]
    exact hasPassed_removeAll hkept h
  | removeAll targets => exact hasPassed_removeAll hkept h

theorem hasPassed_of_delivery (hdistinct : Distinct w.collection.records)
    (h : w.delivery? .next = some r) : w.hasPassed r = false := by
  have hpassed : Distinct (w.step .next).passed :=
    List.Pairwise.sublist (List.take_sublist _ _) (distinct_step hdistinct .next)
  rw [passed_next, h] at hpassed
  obtain ⟨-, -, hdifferent⟩ := List.pairwise_append.1 hpassed
  refine List.any_eq_false.2 fun s hs => ?_
  rw [hdifferent s hs r List.mem_cons_self]
  exact Bool.false_ne_true

end Distinct

end Walk

end RecordStore
