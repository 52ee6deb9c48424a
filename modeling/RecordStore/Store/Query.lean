import RecordStore.Scan.Basic
import RecordStore.Store.Database

/-!
# Queries on a database

A query scans the collection that its program targets. Under snapshot consistency the records are
those that the collection held when the scan began; under weak consistency each record is read at
its turn, from the collection as it then is. The lookups of the scan may change the database, which
is why they run within a state that contains it; the collection is found once, at the start, and
dropping it does not end the scan.
-/

namespace RecordStore

namespace Database

variable {C : Catalog}

/-- Scans a collection of a database for a program. The database is part of a state that the lookups
may change, and `growth` bounds how many records they can add to the collection meanwhile. -/
def scan {σ : Type} [Reports σ] (view : σ → Database C) {tag : C.Tag} (handle : Handle C tag)
    (program : Program) (lookup : C.Row tag → Session.Lookup σ) (growth : Nat) (state : σ) :
    Except ScanError (List (C.Row tag)) × σ :=
  let records := ((view state).collection handle).records
  let judge := fun record => program.judge (lookup record)
  let fetch := fun position state => ((view state).collection handle).get? position
  let scan := program.scan program.limit
  match (view state).config.scan with
  | .weak => scan.overPositions fetch judge (records.length + growth) {} state
  | .snapshot => scan.overList judge {} records state

/-- The records of the targeted collection that match a program, looked up within a state that
contains the database. -/
def select {σ : Type} [Reports σ] (view : σ → Database C) (tag : C.Tag) (program : Program)
    (lookup : C.Row tag → Session.Lookup σ) (growth : Nat) (state : σ) :
    Except StoreError (List (C.Row tag)) × σ :=
  match program.collection with
  | none => (.error (.invalidQuery .noTarget), state)
  | some name =>
    match (view state).openCollection tag name with
    | .error error => (.error error, state)
    | .ok handle =>
      let found := scan view handle program lookup growth state
      (found.1.mapError .scan, found.2)

/-- The records that match a program, their fields given by a resolver. -/
def findWith (db : Database C) (tag : C.Tag) (resolve : C.Row tag → Fields)
    (program : Program) : Except StoreError (List (C.Row tag)) × Database C :=
  select id tag program (fun record => (resolve record).lookup) 0 db

def findOneWith (db : Database C) (tag : C.Tag) (resolve : C.Row tag → Fields)
    (program : Program) : Except StoreError (Option (C.Row tag)) × Database C :=
  let found := db.findWith tag resolve (program.limitTo 1)
  (found.1.map List.head?, found.2)

def find (db : Database C) (tag : C.Tag) (program : Program) :
    Except StoreError (List (C.Row tag)) × Database C :=
  db.findWith tag (C.fields tag) program

def findOne (db : Database C) (tag : C.Tag) (program : Program) :
    Except StoreError (Option (C.Row tag)) × Database C :=
  db.findOneWith tag (C.fields tag) program

end Database

end RecordStore
