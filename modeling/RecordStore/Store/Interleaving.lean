import RecordStore.Store.Request

/-!
# Scans with writes in between

A scan whose collection changes under it: what is scheduled before a field lookup happens at that
moment, in its order and whether or not it succeeds. It may be a request to the database, and it may
be another such scan, with a schedule and a count of lookups of its own. The lookups themselves
answer from the record at hand.
-/

namespace RecordStore

/-- What happens before some of the lookups of a scan, which are counted from one. -/
inductive Schedule (C : Catalog)
  | done
  | request (lookup : Nat) (request : Request C) (rest : Schedule C)
  | search (lookup : Nat) (tag : C.Tag) (inner : Schedule C) (program : Program)
      (rest : Schedule C)
deriving Inhabited

/-- A database in the course of a scan, with the number of lookups so far. -/
structure Interleaving (C : Catalog) where
  database : Database C
  lookups : Nat := 0

namespace Interleaving

variable {C : Catalog}

instance : Reports (Interleaving C) :=
  ⟨fun event state => { state with database := Reports.report event state.database }⟩

/-- The lookup in fixed fields that counts itself and lets happen what is due before it. -/
def lookup (due : Nat → Database C → Database C) (fields : Fields) :
    Session.Lookup (Interleaving C) :=
  fun name state =>
    let lookups := state.lookups + 1
    (fields name, { database := due lookups state.database, lookups })

end Interleaving

namespace Database

variable {C : Catalog}

/-- The records that match a program while something happens between the lookups, with the state
that this leaves. No more than `growth` records are added meanwhile. -/
def findWhile (db : Database C) (tag : C.Tag) (due : Nat → Database C → Database C) (growth : Nat)
    (program : Program) : Except StoreError (List (C.Row tag)) × Interleaving C :=
  select Interleaving.database tag program
    (fun record => Interleaving.lookup due (C.fields tag record)) growth { database := db }

end Database

namespace Schedule

variable {C : Catalog}

/-- How many requests a schedule holds. Each of them adds one record at most. -/
def size : Schedule C → Nat
  | done => 0
  | request _ _ rest => rest.size + 1
  | search _ _ inner _ rest => inner.size + rest.size

def runAt : Schedule C → Nat → Database C → Database C
  | done, _, db => db
  | request k r rest, n, db => rest.runAt n (if k = n then (r.run db).2 else db)
  | search k tag inner program rest, n, db =>
    rest.runAt n
      (if k = n then (db.findWhile tag inner.runAt inner.size program).2.database else db)

end Schedule

namespace Database

variable {C : Catalog}

/-- The records that match a program while a schedule is followed between the lookups, with the
state that this leaves. -/
def findInterleaved (db : Database C) (tag : C.Tag) (schedule : Schedule C) (program : Program) :
    Except StoreError (List (C.Row tag)) × Interleaving C :=
  db.findWhile tag schedule.runAt schedule.size program

end Database

end RecordStore
