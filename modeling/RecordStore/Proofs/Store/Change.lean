import RecordStore.Proofs.Scan.Preservation
import RecordStore.Store.Interleaving

/-!
# What changes a database

Whichever way a database is asked for something, four things at most come of it: a collection is
created, one is dropped, or the records of one are edited, by its name or through a handle. Every
request brings a list of the changes that it can make, which is empty for one that only asks, and a
schedule those of all its requests. What no report and none of these changes takes away is still
there when the request has been answered, whether or not it has been refused.

Scans make no changes of their own. Their reports and their lookups are all that reaches the state
around them.
-/

namespace RecordStore

/-- What can be done to the records of a collection. -/
inductive Edit (ρ : Type)
  | add (record : ρ)
  | remove (record : ρ)
  | removeAll (targets : List ρ)

namespace Collection

variable {ρ : Type} [BEq ρ]

def edit (c : Collection ρ) : Edit ρ → Collection ρ
  | .add record => c.add record
  | .remove record => c.remove record
  | .removeAll targets => c.removeAll targets

@[simp] theorem name_edit (c : Collection ρ) (edit : Edit ρ) : (c.edit edit).name = c.name := by
  cases edit <;> rfl

end Collection

variable {C : Catalog}

/-- What can be done to the collections of a database. -/
inductive Change (C : Catalog)
  | create (tag : C.Tag) (name : String)
  | drop (name : String)
  | edit (tag : C.Tag) (name : String) (edit : Edit (C.Row tag))
  | editHeld (tag : C.Tag) (handle : Handle C tag) (edit : Edit (C.Row tag))

namespace Database

def editHeld (db : Database C) {tag : C.Tag} (handle : Handle C tag) (edit : Edit (C.Row tag)) :
    Database C :=
  db.store handle ((db.collection handle).edit edit)

/-- The database after a change. There is none to a collection that the name does not open. -/
def change (db : Database C) : Change C → Database C
  | .create tag name => (db.create tag name).2
  | .drop name => (db.drop name).2
  | .edit tag name edit =>
    match db.openCollection tag name with
    | .ok handle => db.editHeld handle edit
    | .error _ => db
  | .editHeld _ handle edit => db.editHeld handle edit

theorem save_change (db : Database C) (tag : C.Tag) (name : String) (record : C.Row tag) :
    (db.save tag name record).2 = db.change (.edit tag name (.add record)) := by
  rw [save, change]
  cases db.openCollection tag name <;> rfl

theorem remove_change (db : Database C) (tag : C.Tag) (name : String) (record : C.Row tag) :
    (db.remove tag name record).2 = db.change (.edit tag name (.remove record)) := by
  rw [remove, change]
  cases db.openCollection tag name <;> rfl

theorem removeAll_change (db : Database C) (tag : C.Tag) (name : String)
    (targets : List (C.Row tag)) :
    (db.removeAll tag name targets).2 = db.change (.edit tag name (.removeAll targets)) := by
  rw [removeAll, change]
  cases db.openCollection tag name <;> rfl

end Database

/-! ### The changes that a request can make -/

/-- Opening a repository creates its collection where the configuration says so. -/
def Request.changes : Request C → List (Change C)
  | create tag name | openRepository tag name => [.create tag name]
  | drop name => [.drop name]
  | save tag name record => [.edit tag name (.add record)]
  | remove tag name record => [.edit tag name (.remove record)]
  | removeAll tag name records => [.edit tag name (.removeAll records)]
  | config | describe | names | has _ | count _ | openCollection _ _ | findAll _ _ | find _ _
  | findOne _ _ | findWith _ _ _ | findOneWith _ _ _ => []

def CollectionRequest.changes {tag : C.Tag} (handle : Handle C tag) :
    CollectionRequest (C.Row tag) → List (Change C)
  | add record => [.editHeld tag handle (.add record)]
  | remove record => [.editHeld tag handle (.remove record)]
  | removeAll records => [.editHeld tag handle (.removeAll records)]
  | name | count | isEmpty | describe | get _ | snapshot | contains _ => []

def RepositoryRequest.changes {tag : C.Tag} (r : Repository C tag) :
    RepositoryRequest (C.Row tag) → List (Change C)
  | save record => [.edit tag r.name (.add record)]
  | remove record => [.edit tag r.name (.remove record)]
  | removeAll records => [.edit tag r.name (.removeAll records)]
  | name | count | names | collection | query | describe | findAll | find _ | findOne _
  | call _ _ => []

def Schedule.changes : Schedule C → List (Change C)
  | done => []
  | request _ asked rest => asked.changes ++ rest.changes
  | search _ _ inner _ rest => inner.changes ++ rest.changes

/-! ### Scans -/

namespace Database

section Scans

variable {σ : Type} [Reports σ] {Q : σ → Prop}
  (hreport : ∀ event state, Q state → Q (Reports.report event state))

include hreport

theorem scan_keeps (view : σ → Database C) {tag : C.Tag} (handle : Handle C tag)
    (program : Program) {lookup : C.Row tag → Session.Lookup σ}
    (hlookup : ∀ record, (lookup record).Keeps Q) (growth : Nat) {state : σ} (h : Q state) :
    Q (scan view handle program lookup growth state).2 := by
  have hjudge : ∀ record state, Q state → Q (program.judge (lookup record) state).2 :=
    fun record _ hstate => Program.judge_keeps (hlookup record) program hstate
  rw [scan]
  split
  · exact Scan.overPositions_keeps hreport hjudge _ _ _ {} h
  · exact Scan.overList_keeps hreport hjudge _ {} _ h

theorem select_keeps (view : σ → Database C) (tag : C.Tag) (program : Program)
    {lookup : C.Row tag → Session.Lookup σ} (hlookup : ∀ record, (lookup record).Keeps Q)
    (growth : Nat) {state : σ} (h : Q state) :
    Q (select view tag program lookup growth state).2 := by
  rw [select]
  split
  · exact h
  · split
    · exact h
    · rename_i handle _
      exact scan_keeps hreport view handle program hlookup growth h

end Scans

end Database

/-! ### What outlasts reports and changes -/

section Keeping

variable {Q : Database C → Prop} (hreport : ∀ event db, Q db → Q (Reports.report event db))

include hreport

theorem Database.findWith_keeps (tag : C.Tag) (resolve : C.Row tag → Fields) (program : Program)
    {db : Database C} (h : Q db) : Q (db.findWith tag resolve program).2 :=
  select_keeps hreport id tag program (fun _ _ _ hstate => hstate) 0 h

theorem Database.findWhile_keeps (tag : C.Tag) {due : Nat → Database C → Database C}
    (hdue : ∀ lookups db, Q db → Q (due lookups db)) (growth : Nat) (program : Program)
    {db : Database C} (h : Q db) : Q (db.findWhile tag due growth program).2.database := by
  have hlookup : ∀ record, (Interleaving.lookup due (C.fields tag record)).Keeps
      fun state => Q state.database :=
    fun _ _ state hstate => hdue (state.lookups + 1) state.database hstate
  exact select_keeps (Q := fun state : Interleaving C => Q state.database)
    (fun event _ hstate => hreport event _ hstate) Interleaving.database tag program hlookup growth h

theorem Repository.call_keeps {tag : C.Tag} (r : Repository C tag) (name : String)
    (arguments : List Operand) {db : Database C} (h : Q db) : Q (r.call db name arguments).2 := by
  rw [Repository.call]
  split
  · exact h
  · split
    · exact h
    · split
      · exact Database.findWith_keeps hreport tag _ _ h
      · exact Database.findWith_keeps hreport tag _ _ h

theorem Request.run_keeps (request : Request C) {db : Database C}
    (hchanges : ∀ change ∈ request.changes, Q (db.change change)) (h : Q db) :
    Q (request.run db).2 := by
  cases request with
  | config => exact h
  | describe => exact h
  | names => exact h
  | has name => exact h
  | count name => exact h
  | create tag name => exact hchanges _ List.mem_cons_self
  | drop name => exact hchanges _ List.mem_cons_self
  | openCollection tag name => exact h
  | openRepository tag name =>
    rw [run, answerWith, Repository.openNamed]
    split
    · exact hchanges _ List.mem_cons_self
    · exact h
  | save tag name record =>
    rw [run, answerWith, Database.save_change]
    exact hchanges _ List.mem_cons_self
  | remove tag name record =>
    rw [run, answerWith, Database.remove_change]
    exact hchanges _ List.mem_cons_self
  | removeAll tag name records =>
    rw [run, answerWith, Database.removeAll_change]
    exact hchanges _ List.mem_cons_self
  | findAll tag name => exact h
  | find tag program => exact Database.findWith_keeps hreport tag _ program h
  | findOne tag program => exact Database.findWith_keeps hreport tag _ _ h
  | findWith tag schema program => exact Database.findWith_keeps hreport tag _ program h
  | findOneWith tag schema program => exact Database.findWith_keeps hreport tag _ _ h

theorem RepositoryRequest.run_keeps {tag : C.Tag} (r : Repository C tag)
    (request : RepositoryRequest (C.Row tag)) {db : Database C}
    (hchanges : ∀ change ∈ request.changes r, Q (db.change change)) (h : Q db) :
    Q (RepositoryRequest.run db r request).2 := by
  cases request with
  | name => exact h
  | count => exact h
  | names => exact h
  | collection => exact h
  | query => exact h
  | describe => exact h
  | findAll => exact h
  | save record =>
    rw [run, answerWith, Repository.save, Database.save_change]
    exact hchanges _ List.mem_cons_self
  | remove record =>
    rw [run, answerWith, Repository.remove, Database.remove_change]
    exact hchanges _ List.mem_cons_self
  | removeAll records =>
    rw [run, answerWith, Repository.removeAll, Database.removeAll_change]
    exact hchanges _ List.mem_cons_self
  | find program => exact Database.findWith_keeps hreport tag _ _ h
  | findOne program => exact Database.findWith_keeps hreport tag _ _ h
  | call finder arguments => exact r.call_keeps hreport finder arguments h

/-- The induction is on the schedule: what is due at a lookup is a request or a whole scan, and a scan
brings the smaller schedule that is followed between its own lookups. -/
theorem Schedule.runAt_keeps (schedule : Schedule C)
    (hchanges : ∀ change ∈ schedule.changes, ∀ db, Q db → Q (db.change change)) (lookups : Nat)
    {db : Database C} (h : Q db) : Q (schedule.runAt lookups db) := by
  induction schedule generalizing lookups db with
  | done => exact h
  | request k request rest ih =>
    have hrest := ih fun change hmem => hchanges change (List.mem_append_right _ hmem)
    rw [runAt]
    split
    · apply hrest
      exact request.run_keeps hreport
        (fun change hmem => hchanges change (List.mem_append_left _ hmem) db h) h
    · exact hrest lookups h
  | search k tag inner program rest ihInner ihRest =>
    have hinner := ihInner fun change hmem => hchanges change (List.mem_append_left _ hmem)
    have hrest := ihRest fun change hmem => hchanges change (List.mem_append_right _ hmem)
    rw [runAt]
    split
    · apply hrest
      exact Database.findWhile_keeps hreport tag (fun lookups _ hdb => hinner lookups hdb)
        inner.size program h
    · exact hrest lookups h

end Keeping

/-- A request through a handle edits the collection that it holds, or leaves everything as it is. -/
theorem CollectionRequest.run_keeps {Q : Database C → Prop} {tag : C.Tag} (handle : Handle C tag)
    (request : CollectionRequest (C.Row tag)) {db : Database C}
    (hchanges : ∀ change ∈ request.changes handle, Q (db.change change)) (h : Q db) :
    Q (CollectionRequest.run db handle request).2 := by
  cases request with
  | name => exact h
  | count => exact h
  | isEmpty => exact h
  | describe => exact h
  | get position => exact h
  | snapshot => exact h
  | contains record => exact h
  | add record => exact hchanges _ List.mem_cons_self
  | remove record => exact hchanges _ List.mem_cons_self
  | removeAll records => exact hchanges _ List.mem_cons_self

end RecordStore
