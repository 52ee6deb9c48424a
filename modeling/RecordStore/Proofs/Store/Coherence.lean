import RecordStore.Proofs.Store.Place
import RecordStore.Proofs.Store.Refusal

/-!
# Handles and names

A handle is obtained by a name and then holds on to a collection, while the name may be dropped and
given to another one. As long as that has not happened the two stand for the same collection: what is
done through the handle is what is done by the name or through a repository, with the same answers.
From then on they have nothing to do with each other. What is done through the handle cannot be seen
under any name, and nothing but what is done through such a handle reaches the collection that it
holds.

Which of the two it is does not depend on what becomes of the name after it has been dropped. A later
collection of the same name stands at another place.
-/

namespace RecordStore

variable {C : Catalog}

/-! ### Requests by handle, by name and through a repository -/

/-- The request by name that stands for one through a handle, if there is one. -/
def CollectionRequest.byName? (tag : C.Tag) (name : String) :
    CollectionRequest (C.Row tag) → Option (Request C)
  | count => some (.count name)
  | snapshot => some (.findAll tag name)
  | add record => some (.save tag name record)
  | remove record => some (.remove tag name record)
  | removeAll records => some (.removeAll tag name records)
  | CollectionRequest.name | isEmpty | describe | get _ | contains _ => none

/-- The request to a repository that stands for one through a handle, if there is one. -/
def CollectionRequest.byRepository? {ρ : Type} : CollectionRequest ρ → Option (RepositoryRequest ρ)
  | count => some .count
  | snapshot => some .findAll
  | add record => some (.save record)
  | remove record => some (.remove record)
  | removeAll records => some (.removeAll records)
  | name | isEmpty | describe | get _ | contains _ => none

/-- The name that a request speaks of, if it speaks of one. -/
def Request.subject? : Request C → Option String
  | config | describe | names => none
  | has name | count name | create _ name | drop name | openCollection _ name
  | openRepository _ name | save _ name _ | remove _ name _ | removeAll _ name _
  | findAll _ name => some name
  | find _ program | findOne _ program | findWith _ _ program | findOneWith _ _ program =>
    program.collection

/-- Whether an operation goes through a handle on a place. -/
def Operation.IsThrough (place : Nat) : Operation C → Prop
  | collection _ handle _ => handle.place = place
  | database _ | repository _ _ _ | search _ _ _ => False

namespace Database

variable {db : Database C} {tag : C.Tag} {name : String}

/-- A handle and a name stand for the same collection: the one that is listed under the name is the
one that the handle holds, and requests of the three kinds do the same with the same answers. -/
structure Coheres (db : Database C) (handle : Handle C tag) (name : String) : Prop where
  opens : db.openCollection tag name = .ok handle
  shelf : db.shelf? name = some { tag, collection := db.collection handle, listed := true }
  byName : ∀ {request asked}, request.byName? tag name = some asked →
    asked.run db =
      (.ok (CollectionRequest.run db handle request).1, (CollectionRequest.run db handle request).2)
  byRepository : ∀ {request asked}, request.byRepository? = some asked →
    RepositoryRequest.run db (⟨name⟩ : Repository C tag) asked =
      (.ok (CollectionRequest.run db handle request).1, (CollectionRequest.run db handle request).2)

/-- A handle holds a collection that has nothing to do with the listed ones: none of them is at its
place or changes with it, and it changes with nothing but itself. -/
structure Detached (db : Database C) (handle : Handle C tag) : Prop where
  unlisted : ∀ name, db.place? name ≠ some handle.place
  writes : ∀ request name,
    (CollectionRequest.run db handle request).2.shelf? name = db.shelf? name
  kept : ∀ history : List (Operation C),
    (∀ operation ∈ history, ¬ operation.IsThrough handle.place) →
      (db.after history).collection handle = db.collection handle

/-! ### Handles on listed collections -/

theorem shelf?_of_openCollection {handle : Handle C tag}
    (h : db.openCollection tag name = .ok handle) :
    db.shelf? name = some { tag, collection := db.collection handle, listed := true } := by
  obtain ⟨hplace, htag⟩ := openCollection_eq_ok_iff.1 h
  obtain ⟨shelf, hshelf, hlisted⟩ := exists_of_place? hplace
  rw [hshelf, Option.map_some] at htag
  obtain rfl := Option.some.inj htag
  rw [shelf?, hplace, Option.bind_some, hshelf, collection_of_getElem? hshelf,
    ← (Shelf.isListed_iff.1 hlisted).1]

theorem run_byName {handle : Handle C tag} (h : db.openCollection tag name = .ok handle)
    (request : CollectionRequest (C.Row tag)) {asked : Request C}
    (hasked : request.byName? tag name = some asked) :
    asked.run db =
      (.ok (CollectionRequest.run db handle request).1,
        (CollectionRequest.run db handle request).2) := by
  cases request with
  | count =>
    cases hasked
    rw [Request.run, count, shelf?_of_openCollection h]
    rfl
  | snapshot =>
    cases hasked
    rw [Request.run, findAll, h]
    rfl
  | add record =>
    cases hasked
    rw [Request.run, save, h]
    rfl
  | remove record =>
    cases hasked
    rw [Request.run, remove, h]
    rfl
  | removeAll records =>
    cases hasked
    rw [Request.run, removeAll, h]
    rfl
  | name | isEmpty | describe | get | contains => cases hasked

/-- A repository answers as the database does under its name. -/
theorem coheres_of_openCollection {handle : Handle C tag}
    (h : db.openCollection tag name = .ok handle) : db.Coheres handle name := by
  refine ⟨h, shelf?_of_openCollection h, run_byName h _, ?_⟩
  intro request asked hasked
  cases request with
  | count =>
    cases hasked
    exact run_byName h .count rfl
  | snapshot =>
    cases hasked
    exact run_byName h .snapshot rfl
  | add record =>
    cases hasked
    exact run_byName h (.add record) rfl
  | remove record =>
    cases hasked
    exact run_byName h (.remove record) rfl
  | removeAll records =>
    cases hasked
    exact run_byName h (.removeAll records) rfl
  | name | isEmpty | describe | get | contains => cases hasked

/-! ### Handles on collections off the list -/

theorem shelf?_editHeld {handle : Handle C tag} (hplace : db.place? name ≠ some handle.place)
    (edit : Edit (C.Row tag)) : (db.editHeld handle edit).shelf? name = db.shelf? name := by
  rw [shelf?, shelf?, place?_editHeld]
  cases hname : db.place? name with
  | none => rfl
  | some place =>
    have hne : handle.place ≠ place := by
      rintro rfl
      exact hplace hname
    exact getElem?_editHeld_of_ne hne edit

end Database

theorem Request.not_mem_changes (request : Request C) {tag : C.Tag} {handle : Handle C tag}
    {edit : Edit (C.Row tag)} : Change.editHeld tag handle edit ∉ request.changes := by
  cases request <;> simp [changes]

theorem Schedule.not_mem_changes (schedule : Schedule C) {tag : C.Tag} {handle : Handle C tag}
    {edit : Edit (C.Row tag)} : Change.editHeld tag handle edit ∉ schedule.changes := by
  induction schedule with
  | done => simp [changes]
  | request k asked rest ih => simp [changes, asked.not_mem_changes, ih]
  | search k tag inner program rest ihInner ihRest => simp [changes, ihInner, ihRest]

theorem CollectionRequest.exists_of_mem_changes {tag : C.Tag} {handle : Handle C tag}
    {request : CollectionRequest (C.Row tag)} {change : Change C}
    (h : change ∈ request.changes handle) : ∃ edit, change = .editHeld tag handle edit := by
  cases request with
  | name | count | isEmpty | describe | get | snapshot | contains => cases h
  | add | remove | removeAll => exact ⟨_, List.mem_singleton.1 h⟩

theorem Operation.isThrough_of_mem_changes {operation : Operation C} {tag : C.Tag}
    {handle : Handle C tag} {edit : Edit (C.Row tag)}
    (h : Change.editHeld tag handle edit ∈ operation.changes) :
    operation.IsThrough handle.place := by
  cases operation with
  | database request => exact absurd h request.not_mem_changes
  | collection other held request =>
    obtain ⟨edit', heq⟩ := CollectionRequest.exists_of_mem_changes h
    cases heq
    rfl
  | repository other r request => cases request <;> simp [changes, RepositoryRequest.changes] at h
  | search other schedule program => exact absurd h schedule.not_mem_changes

namespace Database

variable {db : Database C} {tag : C.Tag} {name : String}

theorem getElem?_after_of_unlisted {place : Nat} {shelf : Shelf C}
    (h : db.shelves[place]? = some shelf) (hoff : shelf.listed = false)
    {history : List (Operation C)}
    (hthrough : ∀ operation ∈ history, ¬ operation.IsThrough place) :
    (db.after history).shelves[place]? = some shelf := by
  refine after_keeps (Q := fun now => now.shelves[place]? = some shelf) (fun _ _ h => h) history
    (fun operation hmem change hchange now hnow => ?_) h
  have hunlisted : now.Unlisted place := ⟨shelf, hnow, hoff⟩
  apply getElem?_change_of_not_reaches _ hnow
  intro hreaches
  cases change with
  | create tag name => exact hreaches
  | drop name => exact hunlisted.place?_ne name hreaches
  | edit tag name edit => exact hunlisted.place?_ne name hreaches
  | editHeld tag handle edit =>
    have hplace : handle.place = place := hreaches
    exact hthrough operation hmem (hplace ▸ Operation.isThrough_of_mem_changes hchange)

theorem detached_of_unlisted {handle : Handle C tag} (h : db.Unlisted handle.place) :
    db.Detached handle := by
  refine ⟨h.place?_ne, fun request name => ?_, fun history hthrough => ?_⟩
  · refine request.run_keeps (Q := fun now => now.shelf? name = db.shelf? name) handle ?_ rfl
    intro change hmem
    obtain ⟨edit, rfl⟩ := CollectionRequest.exists_of_mem_changes hmem
    exact shelf?_editHeld (h.place?_ne name) edit
  · obtain ⟨shelf, hshelf, hoff⟩ := h
    rw [collection, collection, getElem?_after_of_unlisted hshelf hoff hthrough, hshelf]

end Database

/-! ### Requests about other names -/

theorem Request.exists_subject_of_reaches {request : Request C} {db : Database C} {place : Nat}
    {change : Change C} (hmem : change ∈ request.changes) (hreaches : change.Reaches db place) :
    ∃ name, request.subject? = some name ∧ db.place? name = some place := by
  cases request with
  | create | openRepository =>
    rw [List.mem_singleton.1 hmem] at hreaches
    cases hreaches
  | drop name | save _ name | remove _ name | removeAll _ name =>
    rw [List.mem_singleton.1 hmem] at hreaches
    exact ⟨name, rfl, hreaches⟩
  | config | describe | names | has | count | openCollection | findAll | find | findOne | findWith
  | findOneWith => cases hmem

theorem RepositoryRequest.place?_of_reaches {tag : C.Tag} {r : Repository C tag}
    {request : RepositoryRequest (C.Row tag)} {db : Database C} {place : Nat} {change : Change C}
    (hmem : change ∈ request.changes r) (hreaches : change.Reaches db place) :
    db.place? r.name = some place := by
  cases request with
  | save | remove | removeAll =>
    rw [List.mem_singleton.1 hmem] at hreaches
    exact hreaches
  | name | count | names | collection | query | describe | findAll | find | findOne | call =>
    cases hmem

namespace Database

variable {db : Database C} {place : Nat} {shelf : Shelf C}

/-- Requests about other collections leave the one at a place as it is: requests by names that lead
elsewhere, requests to repositories of such names, and requests through handles on other places. -/
structure Undisturbed (db : Database C) (place : Nat) (shelf : Shelf C) : Prop where
  byName : ∀ request : Request C,
    (∀ name, request.subject? = some name → db.place? name ≠ some place) →
      (request.run db).2.shelves[place]? = some shelf
  byRepository : ∀ (tag : C.Tag) (r : Repository C tag) (request : RepositoryRequest (C.Row tag)),
    db.place? r.name ≠ some place →
      (RepositoryRequest.run db r request).2.shelves[place]? = some shelf
  byHandle : ∀ (tag : C.Tag) (handle : Handle C tag) (request : CollectionRequest (C.Row tag)),
    handle.place ≠ place →
      (CollectionRequest.run db handle request).2.shelves[place]? = some shelf

theorem undisturbed (h : db.shelves[place]? = some shelf) : db.Undisturbed place shelf := by
  refine ⟨fun request hother => ?_, fun tag r request hother => ?_,
    fun tag handle request hother => ?_⟩
  · refine request.run_keeps (Q := fun now => now.shelves[place]? = some shelf) (fun _ _ h => h) ?_ h
    intro change hmem
    apply getElem?_change_of_not_reaches _ h
    intro hreaches
    obtain ⟨name, hsubject, hplace⟩ := Request.exists_subject_of_reaches hmem hreaches
    exact hother name hsubject hplace
  · refine request.run_keeps (Q := fun now => now.shelves[place]? = some shelf) (fun _ _ h => h) r
      ?_ h
    intro change hmem
    apply getElem?_change_of_not_reaches _ h
    exact fun hreaches => hother (RepositoryRequest.place?_of_reaches hmem hreaches)
  · refine request.run_keeps (Q := fun now => now.shelves[place]? = some shelf) handle ?_ h
    intro change hmem
    obtain ⟨edit, rfl⟩ := CollectionRequest.exists_of_mem_changes hmem
    exact getElem?_change_of_not_reaches hother h

/-! ### Creation -/

theorem create_of_has_eq_false {name : String} (h : db.has name = false) (tag : C.Tag) :
    (db.create tag name).1 = .ok ⟨db.shelves.length⟩ ∧
      (db.create tag name).2.shelves = db.shelves ++ [{ tag, collection := { name } }] := by
  rw [create, if_neg (Bool.eq_false_iff.1 h)]
  exact ⟨rfl, rfl⟩

theorem create_of_shelf? {name : String} (h : db.shelf? name = some shelf) (tag : C.Tag) :
    (db.create tag name).2 = db ∧
      ((∃ handle, (db.create tag name).1 = .ok handle) ↔ shelf.tag = tag) := by
  have hhas : db.has name = true := by rw [has, h, Option.isSome_some]
  rw [create, if_pos hhas]
  refine ⟨rfl, ?_⟩
  rw [shelf?, Option.bind_eq_some_iff] at h
  obtain ⟨place, hplace, hshelf⟩ := h
  constructor
  · rintro ⟨handle, hopen⟩
    obtain ⟨hsame, htag⟩ := openCollection_eq_ok_iff.1 hopen
    obtain rfl := Option.some.inj (hplace.symm.trans hsame)
    rw [hshelf, Option.map_some] at htag
    exact Option.some.inj htag
  · intro htag
    exact ⟨⟨place⟩, openCollection_eq_ok_iff.2 ⟨hplace, by rw [hshelf, Option.map_some, htag]⟩⟩

theorem openCollection_create {tag : C.Tag} {name : String} {handle : Handle C tag}
    (h : (db.create tag name).1 = .ok handle) :
    (db.create tag name).2.openCollection tag name = .ok handle := by
  by_cases hhas : db.has name = true
  · rw [create, if_pos hhas] at h ⊢
    exact h
  · have hhas := Bool.eq_false_iff.2 hhas
    obtain ⟨hopened, hshelves⟩ := create_of_has_eq_false hhas tag
    obtain rfl := Except.ok.inj (hopened.symm.trans h)
    refine openCollection_eq_ok_iff.2 ⟨place?_create hhas tag, ?_⟩
    rw [hshelves, List.getElem?_concat_length, Option.map_some]

/-- Handles and names after any history. A name that leads nowhere can be created and then stands for
a new and empty collection, whose type never changes; one that leads somewhere can be created only
with the type that it has, and nothing comes of it. A handle and the name that opens it cohere, at
every later moment at which the name has not been dropped. Once it has been dropped the handle is
detached, and whatever has happened, a handle that no longer coheres with the name is detached for
good. In either case requests about one collection leave all others as they are. -/
theorem coherent_after (config : Config) (past : List (Operation C)) (tag : C.Tag)
    (name : String) :
    let db := ({ config } : Database C).after past
    let created := (db.create tag name).2
    (db.has name = false →
        (db.create tag name).1 = .ok ⟨db.shelves.length⟩ ∧
          created.shelves = db.shelves ++ [{ tag, collection := { name } }] ∧
          ∀ later, (created.after later).shelves[db.shelves.length]?.map Shelf.tag = some tag) ∧
      (∀ shelf, db.shelf? name = some shelf →
        created = db ∧ ((∃ handle, (db.create tag name).1 = .ok handle) ↔ shelf.tag = tag)) ∧
      (db.config.createMissing = true → (Repository.openNamed db tag name).2 = created) ∧
      (∀ handle, (db.create tag name).1 = .ok handle →
        created.openCollection tag name = .ok handle) ∧
      (db.drop name).2.has name = false ∧
      (∀ handle, db.openCollection tag name = .ok handle → ∀ later : List (Operation C),
        let now := db.after later
        ((∀ operation ∈ later, Change.drop name ∉ operation.changes) → now.Coheres handle name) ∧
          (.database (.drop name) ∈ later → now.Detached handle) ∧
          (now.Coheres handle name ∨ ∀ rest, (now.after rest).Detached handle)) ∧
      ∀ place shelf, db.shelves[place]? = some shelf → db.Undisturbed place shelf := by
  intro db created
  refine ⟨fun hhas => ?_, fun shelf hshelf => create_of_shelf? hshelf tag, fun hmissing => ?_,
    fun handle hcreated => openCollection_create hcreated,
    (wellListed_after config past).has_drop name, fun handle hopen later => ?_,
    fun place shelf hshelf => undisturbed hshelf⟩
  · obtain ⟨hopened, hshelves⟩ := create_of_has_eq_false hhas tag
    refine ⟨hopened, hshelves, fun later => tag_after ?_ later⟩
    rw [hshelves, List.getElem?_concat_length, Option.map_some]
  · rw [Repository.openNamed, if_pos hmissing]
  · intro now
    obtain ⟨hplace, htag⟩ := openCollection_eq_ok_iff.1 hopen
    have hcoheres : now.place? name = some handle.place → now.Coheres handle name :=
      fun hnow => coheres_of_openCollection
        (openCollection_eq_ok_iff.2 ⟨hnow, tag_after htag later⟩)
    refine ⟨fun hdrop => hcoheres (place?_after hplace hdrop),
      fun hdrop => detached_of_unlisted (unlisted_after_drop hplace hdrop), ?_⟩
    exact (place?_or_unlisted_after hplace later).imp hcoheres
      fun hunlisted rest => detached_of_unlisted (hunlisted.after rest)

/-- Cats that are held by a handle while their name is dropped and given to dogs. -/
theorem coherent_after_pets :
    let past : List (Operation Catalog.pets) :=
      [.database (.create .cat "pets"), .database (.save .cat "pets" "tom")]
    let handle : Handle Catalog.pets .cat := ⟨0⟩
    let held : List (Operation Catalog.pets) := [.collection .cat handle (.add "kit")]
    let later : List (Operation Catalog.pets) :=
      [.database (.drop "pets"), .database (.create .dog "pets"),
        .repository .dog ⟨"pets"⟩ (.save "rex"), .collection .cat handle (.remove "tom")]
    let db := ({} : Database Catalog.pets).after past
    let now := db.after (held ++ later)
    (db.create .dog "dens").1 = .ok ⟨1⟩ ∧
      (db.create .dog "pets").2 = db ∧
      (¬ ∃ handle, (db.create .dog "pets").1 = .ok handle) ∧
      db.openCollection .cat "pets" = .ok handle ∧
      (db.after held).Coheres handle "pets" ∧
      (db.after held).findAll .cat "pets" = .ok ["tom", "kit"] ∧
      now.Detached handle ∧
      (now.collection handle).records = ["kit"] ∧
      now.findAll .dog "pets" = .ok ["rex"] ∧
      (Request.run now (.remove .dog "pets" "rex")).2.shelves[0]? = now.shelves[0]? := by
  intro past handle held later db now
  have hopen : db.openCollection .cat "pets" = .ok handle := rfl
  obtain ⟨hnew, -⟩ := coherent_after {} past .dog "dens"
  obtain ⟨-, hpresent, -⟩ := coherent_after {} past .dog "pets"
  obtain ⟨-, -, -, -, -, hhandle, -⟩ := coherent_after {} past .cat "pets"
  obtain ⟨-, -, -, -, -, -, hothers⟩ := coherent_after {} (past ++ (held ++ later)) .dog "pets"
  rw [after_append] at hothers
  obtain ⟨hsame, htype⟩ := hpresent _ rfl
  refine ⟨(hnew rfl).1, hsame, fun hcreated => ?_, hopen, ?_, ?_, ?_, ?_, ?_, ?_⟩
  · cases htype.1 hcreated
  · refine (hhandle handle hopen held).1 fun operation hmem => ?_
    rw [List.mem_singleton.1 hmem]
    simp [Operation.changes, CollectionRequest.changes]
  · rfl
  · exact (hhandle handle hopen (held ++ later)).2.1 (by simp [later])
  · rfl
  · rfl
  · have hheld : now.shelves[0]? = some ⟨.cat, ⟨"pets", ["kit"]⟩, false⟩ := rfl
    rw [hheld]
    have hundisturbed := hothers 0 _ hheld
    apply hundisturbed.byName
    intro name hsubject
    cases hsubject
    decide

end Database

end RecordStore
