import RecordStore.Proofs.Store.History
import RecordStore.Store.Lemmas

/-!
# No record twice

Adding and removing look no further than the first record that equals the given one. That is enough
because no two records of a collection are ever equal: of a record to be added there is at most one
to be replaced, and of a record to be removed at most one to be found. Equality has to be symmetric
and transitive for this, but not reflexive, so that a record may differ from itself.
-/

namespace RecordStore

namespace Collection

variable {ρ : Type} [BEq ρ]

/-- No record of a list equals a later one. -/
def Distinct (records : List ρ) : Prop := records.Pairwise fun a b => (a == b) = false

theorem mem_insert {r record : ρ} {records : List ρ} (h : r ∈ insert record records) :
    r = record ∨ r ∈ records := by
  induction records with
  | nil => exact .inl (List.mem_singleton.1 h)
  | cons s rest ih =>
    rw [insert] at h
    split at h
    · rcases List.mem_cons.1 h with rfl | hrest
      · exact .inl rfl
      · exact .inr (List.mem_cons_of_mem s hrest)
    · rcases List.mem_cons.1 h with rfl | hrest
      · exact .inr List.mem_cons_self
      · exact (ih hrest).imp_right (List.mem_cons_of_mem s)

namespace Distinct

variable [PartialEquivBEq ρ] {records : List ρ}

/-- Where distinct records stand does not matter, as long as it is not the same place. -/
theorem ne_of_positions (h : Distinct records) {i j : Nat} (hij : i ≠ j) {a b : ρ}
    (ha : records[i]? = some a) (hb : records[j]? = some b) : (a == b) = false := by
  obtain ⟨hi, rfl⟩ := List.getElem?_eq_some_iff.1 ha
  obtain ⟨hj, rfl⟩ := List.getElem?_eq_some_iff.1 hb
  have hpairs := List.pairwise_iff_getElem.1 h
  rcases Nat.lt_or_gt_of_ne hij with hlt | hgt
  · exact hpairs i j hi hj hlt
  · rw [BEq.comm]
    exact hpairs j i hj hi hgt

/-- A record that takes the place of an equal one equals none of the others, since they would equal
the replaced record as well. -/
theorem insert (h : Distinct records) (record : ρ) : Distinct (insert record records) := by
  induction records with
  | nil => exact List.pairwise_singleton _ record
  | cons r rest ih =>
    obtain ⟨hfirst, hrest⟩ := List.pairwise_cons.1 h
    rw [Collection.insert]
    split
    · rename_i hequal
      refine List.pairwise_cons.2 ⟨fun s hs => ?_, hrest⟩
      rw [← BEq.congr_left hequal]
      exact hfirst s hs
    · rename_i hdifferent
      refine List.pairwise_cons.2 ⟨fun s hs => ?_, ih hrest⟩
      rcases mem_insert hs with rfl | hs
      · exact Bool.eq_false_iff.2 hdifferent
      · exact hfirst s hs

theorem ne_of_mem_tail {first record r : ρ} (h : Distinct (first :: records))
    (hfirst : (first == record) = true) (hr : r ∈ records) : (r == record) = false := by
  rw [BEq.comm, ← BEq.congr_left hfirst]
  exact (List.pairwise_cons.1 h).1 r hr

/-- The first record that equals the given one is the only one. -/
theorem eraseP_eq_filter (h : Distinct records) (record : ρ) :
    records.eraseP (· == record) = records.filter fun r => !(r == record) := by
  induction records with
  | nil => rfl
  | cons r rest ih =>
    rw [List.eraseP_cons, List.filter_cons]
    cases hequal : r == record with
    | true =>
      have hothers : ∀ s ∈ rest, (!(s == record)) = true := by
        intro s hs
        rw [h.ne_of_mem_tail hequal hs]
        rfl
      exact (List.filter_eq_self.2 hothers).symm
    | false => exact congrArg (r :: ·) (ih (List.pairwise_cons.1 h).2)

theorem remove_eq_removeAll {c : Collection ρ} (h : Distinct c.records) (record : ρ) :
    c.remove record = c.removeAll [record] := by
  rw [remove, removeAll, h.eraseP_eq_filter]
  simp

theorem ne_of_mem_eraseP (h : Distinct records) {record r : ρ}
    (hr : r ∈ records.eraseP (· == record)) : (r == record) = false := by
  rw [h.eraseP_eq_filter] at hr
  simpa using (List.mem_filter.1 hr).2

end Distinct

/-- Wherever equality allows for it, the records of a collection are distinct from its beginning and
stay so. -/
theorem lasting_distinct {C : Catalog} :
    Lasting fun (tag : C.Tag) c => PartialEquivBEq (C.Row tag) → Distinct c.records where
  empty _ _ _ := List.Pairwise.nil
  add record h equality := (h equality).insert record
  remove _ h equality := (h equality).eraseP _
  removeAll _ h equality := (h equality).filter _

end Collection

namespace Database

variable {C : Catalog} {tag : C.Tag}

theorem ne_of_mem_store_remove [PartialEquivBEq (C.Row tag)] {db : Database C}
    {handle : Handle C tag} (hdistinct : Collection.Distinct (db.collection handle).records)
    (record : C.Row tag) :
    let removed := db.store handle ((db.collection handle).remove record)
    ∀ r ∈ (removed.collection handle).records, (r == record) = false := by
  intro removed r hr
  by_cases htag : db.shelves[handle.place]?.map Shelf.tag = some tag
  · rw [collection_store htag] at hr
    exact hdistinct.ne_of_mem_eraseP hr
  · rw [← tag_store db handle ((db.collection handle).remove record)] at htag
    rw [collection_of_tag_ne htag] at hr
    cases hr

theorem remove_eq_store {db : Database C} {name : String} {record : C.Row tag} {found : Bool}
    (h : (db.remove tag name record).1 = .ok found) :
    ∃ handle : Handle C tag,
      (db.remove tag name record).2 = db.store handle ((db.collection handle).remove record) ∧
        (db.remove tag name record).2.openCollection tag name = .ok handle := by
  rw [remove] at h ⊢
  cases hopen : db.openCollection tag name with
  | error error =>
    rw [hopen] at h
    cases h
  | ok handle =>
    refine ⟨handle, rfl, ?_⟩
    have hname : ((db.collection handle).remove record).name = (db.collection handle).name := rfl
    have hstable := openCollection_store db handle hname tag name
    exact hstable.trans hopen

/-- After any history no collection, listed or not, holds equal records at different positions, and
once a record has been removed there is none left that equals it, whether it was removed through a
handle, by the name of its collection or through a repository, and whatever was answered. -/
theorem distinct_after (config : Config) (history : List (Operation C)) (tag : C.Tag)
    [PartialEquivBEq (C.Row tag)] :
    let db := ({ config } : Database C).after history
    (∀ shelf ∈ db.shelves, shelf.tag = tag → ∀ (i j : Nat) (a b : C.Row shelf.tag), i ≠ j →
        shelf.collection.records[i]? = some a → shelf.collection.records[j]? = some b →
          (a == b) = false) ∧
      (∀ (handle : Handle C tag) record,
        let removed := (CollectionRequest.run db handle (.remove record)).2
        ∀ r ∈ (removed.collection handle).records, (r == record) = false) ∧
      (∀ name record found, (db.remove tag name record).1 = .ok found →
        ∃ records, (db.remove tag name record).2.findAll tag name = .ok records ∧
          ∀ r ∈ records, (r == record) = false) ∧
      ∀ (repository : Repository C tag) record found,
        (repository.remove db record).1 = .ok found →
          ∃ records, repository.findAll (repository.remove db record).2 = .ok records ∧
            ∀ r ∈ records, (r == record) = false := by
  intro db
  have hall := throughout_of_lasting Collection.lasting_distinct config history
  have hheld : ∀ handle : Handle C tag, Collection.Distinct (db.collection handle).records :=
    fun handle => hall.collection Collection.lasting_distinct handle inferInstance
  have hremove : ∀ name record found, (db.remove tag name record).1 = .ok found →
      ∃ records, (db.remove tag name record).2.findAll tag name = .ok records ∧
        ∀ r ∈ records, (r == record) = false := by
    intro name record found hfound
    obtain ⟨handle, hstore, hopen⟩ := remove_eq_store hfound
    refine ⟨((db.remove tag name record).2.collection handle).records, ?_, ?_⟩
    · rw [findAll, hopen]
      rfl
    · rw [hstore]
      exact ne_of_mem_store_remove (hheld handle) record
  refine ⟨?_, ?_, hremove, ?_⟩
  · intro shelf hmem htag i j a b hij ha hb
    subst htag
    exact (hall shelf hmem inferInstance).ne_of_positions hij ha hb
  · intro handle record
    exact ne_of_mem_store_remove (hheld handle) record
  · intro repository record found hfound
    exact hremove repository.name record found hfound

end Database

/-- A measurement, which may be missing. One that is missing equals none, not even itself. -/
structure Measurement where
  value? : Option Nat

namespace Measurement

instance : BEq Measurement := ⟨fun a b => a.value?.any fun n => decide (b.value? = some n)⟩

theorem beq_iff {a b : Measurement} :
    (a == b) = true ↔ ∃ n, a.value? = some n ∧ b.value? = some n := by
  rw [BEq.beq, instBEq, Option.any_eq_true]
  exact exists_congr fun n => and_congr_right fun _ => decide_eq_true_iff

instance : PartialEquivBEq Measurement where
  symm h := by
    obtain ⟨n, ha, hb⟩ := beq_iff.1 h
    exact beq_iff.2 ⟨n, hb, ha⟩
  trans hab hbc := by
    obtain ⟨n, ha, hb⟩ := beq_iff.1 hab
    obtain ⟨m, hb', hc⟩ := beq_iff.1 hbc
    cases hb.symm.trans hb'
    exact beq_iff.2 ⟨n, ha, hc⟩

@[reducible] def catalog : Catalog where
  Tag := Unit
  Row _ := Measurement
  typeName _ := "Measurement"
  value? _ _ _ := none

end Measurement

/-- Missing measurements gather, while a known one is replaced by the next that equals it. -/
theorem Database.distinct_after_missing :
    let known : Measurement := ⟨some 1⟩
    let missing : Measurement := ⟨none⟩
    let history : List (Operation Measurement.catalog) :=
      [.database (.create () "m"), .database (.save () "m" known),
        .collection () ⟨0⟩ (.add missing), .repository () ⟨"m"⟩ (.save missing),
        .database (.save () "m" known)]
    let db := ({} : Database Measurement.catalog).after history
    db.findAll () "m" = .ok [known, missing, missing] ∧
      ∃ records, (db.remove () "m" known).2.findAll () "m" = .ok records ∧
        ∀ r ∈ records, (r == known) = false := by
  intro known missing history db
  refine ⟨rfl, ?_⟩
  exact (distinct_after {} history ()).2.2.1 "m" known true rfl

end RecordStore
