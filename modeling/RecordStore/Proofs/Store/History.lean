import RecordStore.Proofs.Store.Preservation

/-!
# Histories of a database

Everything that happens to a database, in whatever order and by whichever way it comes, is a list of
operations that starts from a database without collections. A property of collections that outlasts
the changes to one of them thus holds of all collections that a history leaves behind, including
those that it has dropped.
-/

namespace RecordStore

variable {C : Catalog}

/-- What can be done with a database: a request to it, to a collection by its handle or to a
repository, or a search between whose lookups requests are answered. -/
inductive Operation (C : Catalog)
  | database (request : Request C)
  | collection (tag : C.Tag) (handle : Handle C tag) (request : CollectionRequest (C.Row tag))
  | repository (tag : C.Tag) (r : Repository C tag) (request : RepositoryRequest (C.Row tag))
  | search (tag : C.Tag) (schedule : Schedule C) (program : Program)

/-- The database after an operation, whether or not it fails. -/
def Operation.run (db : Database C) : Operation C → Database C
  | database request => (request.run db).2
  | collection _ handle request => (CollectionRequest.run db handle request).2
  | repository _ r request => (RepositoryRequest.run db r request).2
  | search tag schedule program => (db.findInterleaved tag schedule program).2.database

def Database.after (db : Database C) (history : List (Operation C)) : Database C :=
  history.foldl Operation.run db

def Operation.changes : Operation C → List (Change C)
  | database request => request.changes
  | collection _ handle request => request.changes handle
  | repository _ r request => request.changes r
  | search _ schedule _ => schedule.changes

section Keeping

variable {Q : Database C → Prop} (hreport : ∀ event db, Q db → Q (Reports.report event db))

include hreport

theorem Operation.run_keeps (operation : Operation C)
    (hchanges : ∀ change ∈ operation.changes, ∀ db, Q db → Q (db.change change))
    {db : Database C} (h : Q db) : Q (operation.run db) := by
  cases operation with
  | database request =>
    exact request.run_keeps hreport (fun change hmem => hchanges change hmem db h) h
  | collection tag handle request =>
    exact request.run_keeps handle (fun change hmem => hchanges change hmem db h) h
  | repository tag r request =>
    exact request.run_keeps hreport r (fun change hmem => hchanges change hmem db h) h
  | search tag schedule program =>
    have hdue : ∀ lookups db, Q db → Q (schedule.runAt lookups db) :=
      fun lookups _ hdb => schedule.runAt_keeps hreport hchanges lookups hdb
    exact Database.findWhile_keeps hreport tag hdue schedule.size program h

/-- What outlasts every change that the operations of a history can make outlasts the history. -/
theorem Database.after_keeps (history : List (Operation C))
    (hchanges : ∀ operation ∈ history, ∀ change ∈ operation.changes, ∀ db,
      Q db → Q (db.change change))
    {db : Database C} (h : Q db) : Q (db.after history) := by
  induction history generalizing db with
  | nil => exact h
  | cons operation rest ih =>
    apply ih fun later hmem => hchanges later (List.mem_cons_of_mem operation hmem)
    exact operation.run_keeps hreport (hchanges operation List.mem_cons_self) h

end Keeping

variable {P : (tag : C.Tag) → Collection (C.Row tag) → Prop}

/-- What holds of an empty collection and outlasts every edit holds of every collection, after any
history. -/
theorem Database.throughout_of_lasting (lasting : Collection.Lasting P) (config : Config)
    (history : List (Operation C)) : (({ config } : Database C).after history).Throughout P :=
  after_keeps (fun event _ h => h.report event) history
    (fun _ _ change _ _ h => h.change lasting change) fun _ hmem => by cases hmem

end RecordStore
