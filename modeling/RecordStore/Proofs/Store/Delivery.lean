import RecordStore.Proofs.Store.Walk

/-!
# What a cursor delivers

A cursor that walks a changing collection delivers no record twice, unless the record was taken out
and stored again; and it misses no more records than were taken out behind it. Both are counted in
classes of equal records, since adding a record puts it in the place of an equal one.

The first holds because a class that has been passed stays passed as long as none of it is taken out,
and what is delivered has not been passed. For the second, every class that is missed ends up among
the passed ones without having been delivered, and the only way to get there is to move up into a
place that a removal has cleared behind the cursor.
-/

namespace RecordStore

variable {ρ : Type} [BEq ρ] [PartialEquivBEq ρ]

namespace Walk

open Collection

variable {w : Walk ρ} {r : ρ}

/-! ### Runs of moves -/

/-- What a move keeps as long as it takes out no record that equals the given one, moves in turn keep
under the same condition. -/
theorem after_keeps {P : Walk ρ → Prop}
    (hstep : ∀ w move, Distinct w.collection.records →
      (∀ removal ∈ w.removals move, (removal.record == r) = false) → P w → P (w.step move))
    (hdistinct : Distinct w.collection.records) {moves : List (Move ρ)}
    (hkept : ∀ removal ∈ w.removed moves, (removal.record == r) = false) (h : P w) :
    P (w.after moves) := by
  induction moves generalizing w with
  | nil => exact h
  | cons move rest ih =>
    obtain ⟨hmove, hrest⟩ := List.forall_mem_append.1 hkept
    exact ih (distinct_step hdistinct move) hrest (hstep w move hdistinct hmove h)

theorem after_distinct (hdistinct : Distinct w.collection.records) (moves : List (Move ρ)) :
    Distinct (w.after moves).collection.records := by
  induction moves generalizing w with
  | nil => exact hdistinct
  | cons move rest ih => exact ih (distinct_step hdistinct move)

theorem hasPassed_congr (w : Walk ρ) {a b : ρ} (h : (a == b) = true) :
    w.hasPassed a = w.hasPassed b := by
  simp only [hasPassed, BEq.congr_right h]

theorem exists_removal_of_deliveries (hdistinct : Distinct w.collection.records)
    {between : List (Move ρ)} {a b : ρ} (ha : w.delivery? .next = some a)
    (hb : ((w.step .next).after between).delivery? .next = some b) (hequal : (a == b) = true) :
    ∃ removal ∈ (w.step .next).removed between, (removal.record == a) = true := by
  have hnext := distinct_step hdistinct .next
  have hfirst : (w.step .next).hasPassed a = true := by
    rw [hasPassed_next, ha, Option.any_some, BEq.trans hequal (BEq.symm hequal), Bool.or_true]
  have hsecond : ((w.step .next).after between).hasPassed a = false := by
    rw [hasPassed_congr _ hequal]
    exact hasPassed_of_delivery (after_distinct hnext between) hb
  -- Had none of the class been taken out, it would still be passed at the second delivery.
  refine Classical.byContradiction fun hnone => ?_
  have hkept : ∀ removal ∈ (w.step .next).removed between, (removal.record == a) = false := by
    intro removal hmem
    exact eq_false_of_ne_true fun h => hnone ⟨removal, hmem, h⟩
  have hpassed : ((w.step .next).after between).hasPassed a = true :=
    after_keeps (fun _ _ hw hmove h => hasPassed_step hw hmove h) hnext hkept hfirst
  rw [hsecond] at hpassed
  cases hpassed

/-- A delivery makes its class passed, and what has been passed is not delivered. -/
theorem countP_delivery_add_le (hdistinct : Distinct w.collection.records) {move : Move ρ}
    (hkept : ∀ removal ∈ w.removals move, (removal.record == r) = false) :
    (w.delivery? move).toList.countP (· == r) + (w.hasPassed r).toNat ≤
      ((w.step move).hasPassed r).toNat := by
  have hstays : (w.hasPassed r).toNat ≤ ((w.step move).hasPassed r).toNat := by
    cases hpassed : w.hasPassed r with
    | false => exact Nat.zero_le _
    | true =>
      have hstill := hasPassed_step hdistinct hkept hpassed
      exact Nat.le_of_eq (congrArg Bool.toNat hstill).symm
  cases hdelivery : w.delivery? move with
  | none => simpa using hstays
  | some d =>
    cases hequal : d == r with
    | false => simpa [hequal] using hstays
    | true =>
      cases move with
      | next =>
        have hnew := hasPassed_of_delivery hdistinct hdelivery
        rw [hasPassed_congr w hequal] at hnew
        rw [hasPassed_next, hdelivery, hnew]
        simp [hequal]
      | add record => cases hdelivery
      | remove record => cases hdelivery
      | removeAll targets => cases hdelivery

/-- A class that is never taken out is delivered once at most, and no more when it is passed from
the start. -/
theorem countP_delivered_add_le (hdistinct : Distinct w.collection.records) {moves : List (Move ρ)}
    (hkept : ∀ removal ∈ w.removed moves, (removal.record == r) = false) :
    (w.delivered moves).countP (· == r) + (w.hasPassed r).toNat ≤ 1 := by
  induction moves generalizing w with
  | nil =>
    rw [delivered, List.countP_nil, Nat.zero_add]
    exact Bool.toNat_le _
  | cons move rest ih =>
    obtain ⟨hmove, hrest⟩ := List.forall_mem_append.1 hkept
    have hnow := countP_delivery_add_le hdistinct hmove
    have hlater := ih (distinct_step hdistinct move) hrest
    rw [delivered, List.countP_append]
    omega

/-! ### Missed records -/

section Missed

variable {missed : List ρ}

theorem countP_hasPassed_removeAll (hmissed : Distinct missed) (w : Walk ρ) (targets : List ρ) :
    missed.countP (w.step (.removeAll targets)).hasPassed ≤
      missed.countP w.hasPassed + (w.removals (.removeAll targets)).countP Removal.behind := by
  obtain ⟨moved, hpassed, hmoved⟩ := w.passed_removeAll targets
  have hleft : ∀ r ∈ missed,
      (w.passed.filter fun s => !targets.any (s == ·)).any (· == r) = true →
        w.hasPassed r = true := by
    intro r _ h
    obtain ⟨s, hs, hequal⟩ := List.any_eq_true.1 h
    exact List.any_eq_true.2 ⟨s, (List.mem_filter.1 hs).1, hequal⟩
  calc missed.countP (w.step (.removeAll targets)).hasPassed
    _ = missed.countP fun r => (w.passed.filter fun s => !targets.any (s == ·)).any (· == r) ||
          moved.any (· == r) := by
      refine List.countP_congr fun r _ => ?_
      rw [hasPassed, hpassed, List.any_append]
    _ ≤ _ := countP_or_le _ _ missed
    _ ≤ missed.countP w.hasPassed + moved.length :=
      Nat.add_le_add (List.countP_mono_left hleft) (hmissed.countP_any_le moved)
    _ ≤ _ := Nat.add_le_add_left hmoved _

/-- Of records that are stored and not delivered, no more come to be passed than a move takes out
behind the cursor. -/
theorem countP_hasPassed_step (hmissed : Distinct missed)
    (hdistinct : Distinct w.collection.records)
    (hstored : ∀ r ∈ missed, w.collection.contains r = true) {move : Move ρ}
    (hundelivered : ∀ r ∈ missed, ∀ d ∈ (w.delivery? move).toList, (d == r) = false) :
    missed.countP (w.step move).hasPassed ≤
      missed.countP w.hasPassed + (w.removals move).countP Removal.behind := by
  cases move with
  | next =>
    refine Nat.le_add_right_of_le (List.countP_mono_left fun r hr h => ?_)
    rw [hasPassed_next, Bool.or_eq_true, Option.any_eq_true] at h
    rcases h with h | ⟨d, hd, hequal⟩
    · exact h
    · rw [hundelivered r hr d (Option.mem_toList.2 hd)] at hequal
      cases hequal
  | add record =>
    refine Nat.le_add_right_of_le (List.countP_mono_left fun r hr h => ?_)
    rwa [hasPassed_add (hstored r hr)] at h
  | remove record =>
    rw [step_remove hdistinct, removals_remove hdistinct]
    exact countP_hasPassed_removeAll hmissed w [record]
  | removeAll targets => exact countP_hasPassed_removeAll hmissed w targets

theorem countP_hasPassed_after (hmissed : Distinct missed)
    (hdistinct : Distinct w.collection.records)
    (hstored : ∀ r ∈ missed, w.collection.contains r = true) {moves : List (Move ρ)}
    (hkept : ∀ r ∈ missed, ∀ removal ∈ w.removed moves, (removal.record == r) = false)
    (hundelivered : ∀ r ∈ missed, ∀ d ∈ w.delivered moves, (d == r) = false) :
    missed.countP (w.after moves).hasPassed ≤
      missed.countP w.hasPassed + (w.removed moves).countP Removal.behind := by
  induction moves generalizing w with
  | nil => exact Nat.le_add_right _ _
  | cons move rest ih =>
    have hkept' := fun r hr => List.forall_mem_append.1 (hkept r hr)
    have hundelivered' := fun r hr => List.forall_mem_append.1 (hundelivered r hr)
    have hstored' : ∀ r ∈ missed, (w.step move).collection.contains r = true :=
      fun r hr => contains_step hdistinct (hkept' r hr).1 (hstored r hr)
    have hnow := countP_hasPassed_step hmissed hdistinct hstored fun r hr => (hundelivered' r hr).1
    have hlater := ih (distinct_step hdistinct move) hstored' (fun r hr => (hkept' r hr).2)
      fun r hr => (hundelivered' r hr).2
    rw [removed, List.countP_append]
    exact Nat.le_trans hlater (by omega)

/-- From its start to an end of the collection a walk misses no more classes than records are taken
out behind the cursor. -/
theorem length_missed_le {c : Collection ρ} (hdistinct : Distinct c.records) {moves : List (Move ρ)}
    (hend : (({ collection := c } : Walk ρ).after moves).delivery? .next = none)
    (hmissed : Distinct missed) (hstored : ∀ r ∈ missed, c.contains r = true)
    (hkept : ∀ r ∈ missed, ∀ removal ∈ ({ collection := c } : Walk ρ).removed moves,
      (removal.record == r) = false)
    (hundelivered : ∀ r ∈ missed, ∀ d ∈ ({ collection := c } : Walk ρ).delivered moves,
      (d == r) = false) :
    missed.length ≤ (({ collection := c } : Walk ρ).removed moves).countP Removal.behind := by
  have hstart : missed.countP ({ collection := c } : Walk ρ).hasPassed = 0 :=
    List.countP_eq_zero.2 fun r _ => Bool.false_ne_true
  have hall : missed.countP (({ collection := c } : Walk ρ).after moves).hasPassed =
      missed.length := by
    refine List.countP_eq_length.2 fun r hr => ?_
    rw [hasPassed_of_delivery_eq_none hend]
    exact after_keeps (fun _ _ hw hmove h => contains_step hw hmove h) hdistinct (hkept r hr)
      (hstored r hr)
  have hcount := countP_hasPassed_after hmissed hdistinct hstored hkept hundelivered
  omega

end Missed

end Walk

namespace Database

variable {C : Catalog} {tag : C.Tag}

/-- Whenever a cursor on a collection delivers two equal records, a record that equals them has been
taken out of the collection in between. It makes no difference what else has happened to the
collection, or how often the cursor has come to its end. -/
theorem exists_removal_between (config : Config) (history : List (Operation C))
    [PartialEquivBEq (C.Row tag)] (handle : Handle C tag)
    (before between : List (Move (C.Row tag))) (a b : C.Row tag) :
    let collection := (({ config } : Database C).after history).collection handle
    let first := ({ collection } : Walk (C.Row tag)).after before
    let second := (first.step .next).after between
    first.delivery? .next = some a → second.delivery? .next = some b → (a == b) = true →
      ∃ removal ∈ (first.step .next).removed between, (removal.record == a) = true := by
  intro collection first second ha hb hequal
  have hall := throughout_of_lasting Collection.lasting_distinct config history
  have hdistinct := hall.collection Collection.lasting_distinct handle inferInstance
  exact Walk.exists_removal_of_deliveries (Walk.after_distinct hdistinct before) ha hb hequal

/-- The first measurement is delivered again at the place to which it has come back. -/
theorem exists_removal_between_again :
    let one : Measurement := ⟨some 1⟩
    let two : Measurement := ⟨some 2⟩
    let history : List (Operation Measurement.catalog) :=
      [.database (.create () "m"), .database (.save () "m" one), .database (.save () "m" two)]
    let handle : Handle Measurement.catalog () := ⟨0⟩
    let walk : Walk Measurement := { collection := { name := "m", records := [one, two] } }
    (({} : Database Measurement.catalog).after history).collection handle = walk.collection ∧
      walk.delivered [.next, .remove one, .add one, .next] = [one, one] ∧
      ∃ removal ∈ (walk.step .next).removed [.remove one, .add one],
        (removal.record == one) = true := by
  intro one two history handle walk
  have hwalk : (({} : Database Measurement.catalog).after history).collection handle =
      walk.collection := rfl
  have hbetween := exists_removal_between {} history handle [] [.remove one, .add one] one one
  simp only [hwalk] at hbetween
  exact ⟨hwalk, rfl, hbetween rfl rfl rfl⟩

/-- A cursor that has walked a collection from its start to an end has missed no more classes of
equal records than records were taken out behind it, where a class is missed when it was stored at
the start, no record of it was taken out and none was delivered. If nothing was taken out behind the
cursor, each class that was stored at the start and stayed has been delivered exactly once. -/
theorem missed_le_removed_behind (config : Config) (history : List (Operation C))
    [PartialEquivBEq (C.Row tag)] (handle : Handle C tag) (moves : List (Move (C.Row tag))) :
    let collection := (({ config } : Database C).after history).collection handle
    let walk : Walk (C.Row tag) := { collection }
    let stays := fun r : C.Row tag => collection.contains r = true ∧
      ∀ removal ∈ walk.removed moves, (removal.record == r) = false
    (walk.after moves).delivery? .next = none →
      (∀ missed, Collection.Distinct missed →
          (∀ r ∈ missed, stays r ∧ ∀ d ∈ walk.delivered moves, (d == r) = false) →
            missed.length ≤ (walk.removed moves).countP Removal.behind) ∧
        ((∀ removal ∈ walk.removed moves, removal.behind = false) →
          ∀ r, stays r → (walk.delivered moves).countP (· == r) = 1) := by
  intro collection walk stays hend
  have hall := throughout_of_lasting Collection.lasting_distinct config history
  have hdistinct := hall.collection Collection.lasting_distinct handle inferInstance
  have hbound : ∀ missed, Collection.Distinct missed →
      (∀ r ∈ missed, stays r ∧ ∀ d ∈ walk.delivered moves, (d == r) = false) →
        missed.length ≤ (walk.removed moves).countP Removal.behind := by
    intro missed hmissed h
    exact Walk.length_missed_le hdistinct hend hmissed (fun r hr => (h r hr).1.1)
      (fun r hr => (h r hr).1.2) (fun r hr => (h r hr).2)
  refine ⟨hbound, fun hahead r hr => Nat.le_antisymm ?_ ?_⟩
  · have honce := Walk.countP_delivered_add_le hdistinct hr.2
    omega
  · -- Otherwise the class would be missed, and nothing has been taken out behind the cursor.
    refine Nat.pos_of_ne_zero fun hzero => ?_
    have hnone : ∀ d ∈ walk.delivered moves, (d == r) = false :=
      fun d hd => eq_false_of_ne_true (List.countP_eq_zero.1 hzero d hd)
    have hone := hbound [r] (List.pairwise_singleton _ r) (List.forall_mem_singleton.2 ⟨hr, hnone⟩)
    have hbehind : (walk.removed moves).countP Removal.behind = 0 :=
      List.countP_eq_zero.2 fun removal hmem => ne_true_of_eq_false (hahead removal hmem)
    rw [hbehind] at hone
    cases hone

/-- A removal behind the cursor hides one measurement, while a replacement and a removal ahead of the
cursor hide none. -/
theorem missed_le_removed_behind_one :
    let measurement := fun n : Nat => (⟨some n⟩ : Measurement)
    let stored := [measurement 1, measurement 2, measurement 3]
    let history : List (Operation Measurement.catalog) :=
      .database (.create () "m") :: stored.map fun record => .database (.save () "m" record)
    let handle : Handle Measurement.catalog () := ⟨0⟩
    let walk : Walk Measurement := { collection := { name := "m", records := stored } }
    let behind : List (Move Measurement) := [.next, .remove (measurement 1), .next]
    let ahead : List (Move Measurement) :=
      [.next, .add (measurement 1), .remove (measurement 2), .next]
    (({} : Database Measurement.catalog).after history).collection handle = walk.collection ∧
      walk.delivered behind = [measurement 1, measurement 3] ∧
      [measurement 2].length ≤ (walk.removed behind).countP Removal.behind ∧
      (walk.delivered ahead).countP (· == measurement 3) = 1 := by
  intro measurement stored history handle walk behind ahead
  have hwalk : (({} : Database Measurement.catalog).after history).collection handle =
      walk.collection := rfl
  have hbehind := missed_le_removed_behind {} history handle behind
  have hahead := missed_le_removed_behind {} history handle ahead
  simp only [hwalk] at hbehind hahead
  have hkept : ∀ removal ∈ walk.removed behind, (removal.record == measurement 2) = false :=
    List.forall_mem_singleton.2 rfl
  have hundelivered : ∀ d ∈ walk.delivered behind, (d == measurement 2) = false :=
    List.forall_mem_cons.2 ⟨rfl, List.forall_mem_singleton.2 rfl⟩
  refine ⟨hwalk, rfl, ?_, ?_⟩
  · exact (hbehind rfl).1 [measurement 2] (List.pairwise_singleton _ _)
      (List.forall_mem_singleton.2 ⟨⟨rfl, hkept⟩, hundelivered⟩)
  · exact (hahead rfl).2 (List.forall_mem_singleton.2 rfl) (measurement 3)
      ⟨rfl, List.forall_mem_singleton.2 rfl⟩

end Database

end RecordStore
