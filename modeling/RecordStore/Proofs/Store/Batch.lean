import RecordStore.Proofs.Store.Distinct

/-!
# Batches of removals

A batch is removed in one pass over the records, which takes out whatever equals one of the targets. A
single removal stops at the first record that it finds. The two agree because no collection holds two
equal records: the first is then the only one, and to remove several targets one after the other is to
remove them all at once, in whatever order they come and however often they are repeated. A target that
is repeated, or that equals nothing, is found no more than it is in the batch.
-/

namespace RecordStore

namespace Collection

variable {ρ : Type} [BEq ρ]

def removeEach (c : Collection ρ) (records : List ρ) : Collection ρ := records.foldl remove c

/-- Whether each record is there by the time that its removal is due. -/
def foundEach (c : Collection ρ) : List ρ → List Bool
  | [] => []
  | record :: rest => c.contains record :: (c.remove record).foundEach rest

theorem removeAll_nil (c : Collection ρ) : c.removeAll [] = c :=
  congrArg (Collection.mk c.name) (List.filter_eq_self.2 fun _ _ => rfl)

theorem removeAll_removeAll (c : Collection ρ) (first second : List ρ) :
    (c.removeAll first).removeAll second = c.removeAll (first ++ second) := by
  simp only [removeAll, List.filter_filter, List.any_append, Bool.not_or, Bool.and_comm]

theorem removeAll_perm (c : Collection ρ) {targets order : List ρ} (h : order.Perm targets) :
    c.removeAll order = c.removeAll targets := by
  simp only [removeAll, h.any_eq]

theorem removeEach_eq_removeAll [PartialEquivBEq ρ] {c : Collection ρ} (h : Distinct c.records)
    (records : List ρ) : c.removeEach records = c.removeAll records := by
  induction records generalizing c with
  | nil => exact c.removeAll_nil.symm
  | cons record rest ih =>
    have hrest : Distinct (c.remove record).records := h.eraseP _
    calc c.removeEach (record :: rest)
      _ = (c.remove record).removeEach rest := rfl
      _ = (c.remove record).removeAll rest := ih hrest
      _ = (c.removeAll [record]).removeAll rest := by rw [h.remove_eq_removeAll]
      _ = c.removeAll (record :: rest) := c.removeAll_removeAll [record] rest

theorem count_remove (c : Collection ρ) (record : ρ) :
    (c.remove record).count + (c.contains record).toNat = c.count := by
  rw [count, remove, List.length_eraseP, ← contains]
  cases hstored : c.contains record with
  | true =>
    obtain ⟨r, hr, -⟩ := List.any_eq_true.1 hstored
    exact Nat.sub_add_cancel (List.length_pos_of_mem hr)
  | false => rfl

theorem count_removeEach (c : Collection ρ) (records : List ρ) :
    (c.removeEach records).count + (c.foundEach records).count true = c.count := by
  induction records generalizing c with
  | nil => rfl
  | cons record rest ih =>
    have hfirst := c.count_remove record
    have hrest : (c.removeEach (record :: rest)).count +
        ((c.remove record).foundEach rest).count true = (c.remove record).count :=
      ih (c.remove record)
    have hfound : (c.foundEach (record :: rest)).count true =
        ((c.remove record).foundEach rest).count true + (c.contains record).toNat := by
      rw [foundEach, List.count_cons]
      cases c.contains record <;> rfl
    omega

end Collection

variable {C : Catalog} {tag : C.Tag}

namespace Database

theorem collection_store_remove (db : Database C) (handle : Handle C tag) (record : C.Row tag) :
    (db.store handle ((db.collection handle).remove record)).collection handle =
      (db.collection handle).remove record := by
  by_cases htag : db.shelves[handle.place]?.map Shelf.tag = some tag
  · exact collection_store htag _
  · rw [collection_of_tag_ne htag]
    rw [← tag_store db handle (Collection.remove { name := "" } record)] at htag
    exact collection_of_tag_ne htag

end Database

namespace CollectionRequest

/-- The answers to one request after the other through a handle, and the database behind them. -/
def runEach (db : Database C) (handle : Handle C tag) :
    List (CollectionRequest (C.Row tag)) → List (Answer C) × Database C
  | [] => ([], db)
  | request :: rest =>
    let first := run db handle request
    let later := runEach first.2 handle rest
    (first.1 :: later.1, later.2)

theorem runEach_remove (db : Database C) (handle : Handle C tag) (records : List (C.Row tag)) :
    runEach db handle (records.map remove) =
      (((db.collection handle).foundEach records).map .flag,
        db.store handle ((db.collection handle).removeEach records)) := by
  induction records generalizing db with
  | nil => exact congrArg (Prod.mk []) (db.store_collection handle).symm
  | cons record rest ih =>
    rw [List.map_cons, runEach, run, ih, db.collection_store_remove, db.store_store]
    rfl

end CollectionRequest

/-- Whatever has happened to a database, to remove a batch of records through a handle leaves what it
leaves to remove them one by one, in any order, and the answer to the batch is the number of single
removals that find their record. -/
theorem Database.removeAll_eq_runEach_remove (config : Config) (history : List (Operation C))
    [PartialEquivBEq (C.Row tag)] (handle : Handle C tag) (targets order : List (C.Row tag))
    (horder : order.Perm targets) :
    let db := ({ config } : Database C).after history
    let batch := CollectionRequest.run db handle (.removeAll targets)
    let single := CollectionRequest.runEach db handle (order.map .remove)
    single.2 = batch.2 ∧
      ∃ found : List Bool, single.1 = found.map .flag ∧ batch.1 = .count (found.count true) := by
  intro db batch single
  have hall := throughout_of_lasting Collection.lasting_distinct config history
  have hdistinct : Collection.Distinct (db.collection handle).records :=
    hall.collection Collection.lasting_distinct handle inferInstance
  have hsame : (db.collection handle).removeEach order = (db.collection handle).removeAll targets :=
    (Collection.removeEach_eq_removeAll hdistinct order).trans
      ((db.collection handle).removeAll_perm horder)
  have hsingle := CollectionRequest.runEach_remove db handle order
  refine ⟨?_, (db.collection handle).foundEach order, congrArg Prod.fst hsingle, ?_⟩
  · exact (congrArg Prod.snd hsingle).trans (congrArg (db.store handle) hsame)
  · have hcount := (db.collection handle).count_removeEach order
    rw [hsame] at hcount
    exact congrArg Answer.count (by omega)

/-- A target that is repeated is found once, and one that is missing never, although a missing
measurement is stored. -/
theorem Database.removeAll_eq_runEach_remove_measurements :
    let measurement := fun n : Nat => (⟨some n⟩ : Measurement)
    let missing : Measurement := ⟨none⟩
    let history : List (Operation Measurement.catalog) :=
      [.database (.create () "m"), .database (.save () "m" (measurement 1)),
        .database (.save () "m" missing), .database (.save () "m" (measurement 2))]
    let db := ({} : Database Measurement.catalog).after history
    let handle : Handle Measurement.catalog () := ⟨0⟩
    let targets := [measurement 1, missing, measurement 2, measurement 1, measurement 3]
    let batch := CollectionRequest.run db handle (.removeAll targets)
    let single := CollectionRequest.runEach db handle (targets.reverse.map .remove)
    targets.reverse.Perm targets ∧ single.2 = batch.2 ∧
      single.1 = [false, true, true, false, false].map .flag ∧ batch.1 = .count 2 ∧
      batch.2.findAll () "m" = .ok [missing] ∧
      ∃ found : List Bool, single.1 = found.map .flag ∧ batch.1 = .count (found.count true) := by
  intro measurement missing history db handle targets batch single
  have horder : targets.reverse.Perm targets := List.reverse_perm targets
  have hheld : db.collection handle = ⟨"m", [measurement 1, missing, measurement 2]⟩ := rfl
  obtain ⟨hsame, hanswers⟩ :=
    removeAll_eq_runEach_remove {} history handle targets targets.reverse horder
  have hsingle := CollectionRequest.runEach_remove db handle targets.reverse
  have hbatch : batch = (.count ((db.collection handle).count -
      ((db.collection handle).removeAll targets).count),
    db.store handle ((db.collection handle).removeAll targets)) := rfl
  rw [hheld] at hsingle hbatch
  refine ⟨horder, hsame, congrArg Prod.fst hsingle, congrArg Prod.fst hbatch, ?_, hanswers⟩
  rw [hbatch]
  rfl

end RecordStore
