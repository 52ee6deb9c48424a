import RecordStore.Proofs.Store.Distinct

/-!
# Snapshot and weak consistency

A query whose records are fixed when it begins runs over the list of them. That is what snapshot
consistency means, and whatever happens to the database meanwhile cannot reach that list. Weak
consistency reads the collection anew for every record; as long as nothing is written, it comes upon
the same records in the same order.

The state around a query stands for everything that may observe it or interfere with it: lookups and
reports may change it in any way, the database that is part of it included.
-/

namespace RecordStore

namespace Database

variable {C : Catalog} {tag : C.Tag}

/-- The database as it would be under another consistency. -/
def under (consistency : Consistency) (db : Database C) : Database C :=
  { db with config := { db.config with scan := consistency } }

def targeted (db : Database C) (tag : C.Tag) (program : Program) :
    Except StoreError (List (C.Row tag)) :=
  match program.collection with
  | none => .error (.invalidQuery .noTarget)
  | some name => db.findAll tag name

/-- The first record that matches a program, looked up within a state that contains the database. -/
def selectOne {σ : Type} [Reports σ] (view : σ → Database C) (tag : C.Tag) (program : Program)
    (lookup : C.Row tag → Session.Lookup σ) (growth : Nat) (state : σ) :
    Except StoreError (Option (C.Row tag)) × σ :=
  let found := select view tag (program.limitTo 1) lookup growth state
  (found.1.map List.head?, found.2)

/-- What a program finds in the records that it targets at the start. -/
def selectFixed {σ : Type} [Reports σ] (view : σ → Database C) (tag : C.Tag) (program : Program)
    (lookup : C.Row tag → Session.Lookup σ) (state : σ) :
    Except StoreError (List (C.Row tag)) × σ :=
  match (view state).targeted tag program with
  | .error error => (.error error, state)
  | .ok records =>
    let found := program.execute lookup records state
    (found.1.mapError .scan, found.2)

/-- Nothing is written to the database while a program runs over the records that it targets. -/
def Unwritten {σ : Type} [Reports σ] (view : σ → Database C) (tag : C.Tag) (program : Program)
    (lookup : C.Row tag → Session.Lookup σ) (state : σ) : Prop :=
  ∀ records, (view state).targeted tag program = .ok records →
    (program.scan program.limit).AtTurns (fun record => program.judge (lookup record))
      (fun s => (view s).shelves = (view state).shelves) {} records state

/-! ### Queries over fixed records -/

section Fixed

variable {σ : Type} [Reports σ] {view : σ → Database C} {lookup : C.Row tag → Session.Lookup σ}
  (growth : Nat) {program : Program} {state : σ}

theorem select_eq_selectFixed
    (h : ∀ handle : Handle C tag,
      (view state).targeted tag program = .ok ((view state).collection handle).records →
        scan view handle program lookup growth state =
          program.execute lookup ((view state).collection handle).records state) :
    select view tag program lookup growth state = selectFixed view tag program lookup state := by
  rw [select, selectFixed]
  rw [targeted] at h ⊢
  cases htarget : program.collection with
  | none => rfl
  | some name =>
    simp only [htarget, findAll] at h ⊢
    cases hopen : (view state).openCollection tag name with
    | error error => rfl
    | ok handle =>
      rw [hopen] at h
      simp only [Except.map, h handle rfl]

theorem select_of_snapshot (h : (view state).config.scan = .snapshot) :
    select view tag program lookup growth state = selectFixed view tag program lookup state := by
  refine select_eq_selectFixed growth fun handle _ => ?_
  rw [scan, h]
  rfl

theorem select_of_unwritten (h : Unwritten view tag program lookup state) :
    select view tag program lookup growth state = selectFixed view tag program lookup state := by
  refine select_eq_selectFixed growth fun handle htargeted => ?_
  rw [scan]
  cases (view state).config.scan with
  | snapshot => rfl
  | weak =>
    have hfetch : ∀ s, (view s).shelves = (view state).shelves → ∀ position,
        ((view s).collection handle).get? position =
          ((view state).collection handle).records[position]? := by
      intro s hs position
      rw [Collection.get?, Database.collection, Database.collection, hs]
    exact Scan.overPositions_eq_overList _ _ {} (Nat.le_add_left_of_le (Nat.le_add_right _ _))
      ((h _ htargeted).imp hfetch)

theorem select_under (h : Unwritten view tag program lookup state) :
    select (fun s => (view s).under .weak) tag program lookup growth state =
      select (fun s => (view s).under .snapshot) tag program lookup growth state := by
  have hweak : Unwritten (fun s => (view s).under .weak) tag program lookup state := h
  have hsnapshot : Unwritten (fun s => (view s).under .snapshot) tag program lookup state := h
  rw [select_of_unwritten growth hweak, select_of_unwritten growth hsnapshot]
  rfl

theorem unwritten_of_keeps
    (hlookup : ∀ record, (lookup record).Keeps fun s => (view s).shelves = (view state).shelves)
    (hreport : ∀ event s, (view s).shelves = (view state).shelves →
      (view (Reports.report event s)).shelves = (view state).shelves) :
    Unwritten view tag program lookup state :=
  fun records _ => Scan.atTurns_of_keeps hreport
    (fun record _ hs => program.judge_keeps (hlookup record) hs) _ {} records rfl

end Fixed

/-! ### What a resolver answers -/

section Agree

variable {σ τ : Type} [Reports σ] [Reports τ] {R : σ → τ → Prop} {view : σ → Database C}
  {view' : τ → Database C} {lookup : C.Row tag → Session.Lookup σ}
  {lookup' : C.Row tag → Session.Lookup τ}

theorem selectFixed_agree
    (hreport : ∀ event s t, R s t → R (Reports.report event s) (Reports.report event t))
    (program : Program)
    (hjudge : ∀ record s t, R s t →
      Agree R (program.judge (lookup record) s) (program.judge (lookup' record) t))
    {s : σ} {t : τ} (h : R s t)
    (htargeted : (view s).targeted tag program = (view' t).targeted tag program) :
    Agree R (selectFixed view tag program lookup s) (selectFixed view' tag program lookup' t) := by
  rw [selectFixed, selectFixed, htargeted]
  cases (view' t).targeted tag program with
  | error error => exact ⟨rfl, h⟩
  | ok records =>
    have hagree := Scan.overList_agree hreport hjudge (program.scan program.limit) {} records h
    exact ⟨congrArg (Except.mapError StoreError.scan) hagree.answer, hagree.state⟩

end Agree

/-- What a program finds in the records that it targets while nothing else goes on, their fields
given by a resolver. -/
def foundAtRest (db : Database C) (tag : C.Tag) (resolve : C.Row tag → Fields) (program : Program) :
    Except StoreError (List (C.Row tag)) :=
  (db.targeted tag program).bind fun records =>
    let found := program.execute (fun record => (resolve record).lookup) records (#[] : Array Event)
    found.1.mapError .scan

theorem foundAtRest_eq (db : Database C) (resolve : C.Row tag → Fields) (program : Program) :
    db.foundAtRest tag resolve program =
      (selectFixed (fun _ : Array Event => db) tag program (fun record => (resolve record).lookup)
        #[]).1 := by
  rw [foundAtRest, selectFixed]
  cases db.targeted tag program <;> rfl

/-- Whatever the lookups do besides, their answers alone decide what is found in fixed records. -/
theorem selectFixed_answer {σ : Type} [Reports σ] (view : σ → Database C)
    {resolve : C.Row tag → Fields} {lookup : C.Row tag → Session.Lookup σ}
    (hanswers : ∀ record name s, (lookup record name s).1 = resolve record name)
    (program : Program) (state : σ) :
    (selectFixed view tag program lookup state).1 =
      (view state).foundAtRest tag resolve program := by
  let R := fun (_ : σ) (_ : Array Event) => True
  have hjudge : ∀ record s t, R s t →
      Agree R (program.judge (lookup record) s) (program.judge (resolve record).lookup t) := by
    refine fun record s t _ => ⟨?_, trivial⟩
    rw [program.judge_answer (hanswers record) s, Program.judge_lookup]
  rw [foundAtRest_eq]
  exact (selectFixed_agree (fun _ _ _ h => h) program hjudge trivial rfl).answer

theorem unwritten_lookup (resolve : C.Row tag → Fields) (program : Program) (db : Database C) :
    Unwritten id tag program (fun record => (resolve record).lookup) db :=
  unwritten_of_keeps (fun _ _ _ h => h) fun _ _ h => h

theorem findWith_under (db : Database C) (resolve : C.Row tag → Fields) (program : Program) :
    let weak := (db.under .weak).findWith tag resolve program
    (db.under .snapshot).findWith tag resolve program = (weak.1, weak.2.under .snapshot) := by
  intro weak
  -- The two databases differ in their configuration alone, at every moment of the two scans.
  let R := fun d e : Database C => e = d.under .snapshot
  have hreport : ∀ event d e, R d e → R (Reports.report event d) (Reports.report event e) := by
    rintro event d e rfl
    rfl
  have hjudge : ∀ record d e, R d e → Agree R (program.judge (resolve record).lookup d)
      (program.judge (resolve record).lookup e) := by
    intro record d e h
    rw [Program.judge_lookup, Program.judge_lookup]
    exact ⟨rfl, h⟩
  have hagree : Agree R weak ((db.under .snapshot).findWith tag resolve program) := by
    simp only [weak, findWith]
    rw [select_of_unwritten 0 (unwritten_lookup resolve program (db.under .weak)),
      select_of_unwritten 0 (unwritten_lookup resolve program (db.under .snapshot))]
    exact selectFixed_agree hreport program hjudge rfl rfl
  exact Prod.ext hagree.answer.symm hagree.state

theorem findOneWith_under (db : Database C) (resolve : C.Row tag → Fields) (program : Program) :
    let weak := (db.under .weak).findOneWith tag resolve program
    (db.under .snapshot).findOneWith tag resolve program = (weak.1, weak.2.under .snapshot) := by
  intro weak
  simp only [weak, findOneWith, findWith_under]

/-- Under snapshot consistency a query finds what its program finds in the records as they were when
it began, whatever its lookups and reports do to the database. As long as they write nothing, a query
comes to the same end under both consistencies, with the same lookups and reports on the way. -/
theorem select_by_consistency {σ : Type} [Reports σ] (view : σ → Database C) (tag : C.Tag)
    (resolve : C.Row tag → Fields) (lookup : C.Row tag → Session.Lookup σ) (growth : Nat)
    (program : Program) (state : σ) :
    ((view state).config.scan = .snapshot →
        (∀ record name s, (lookup record name s).1 = resolve record name) →
          (select view tag program lookup growth state).1 =
              (view state).foundAtRest tag resolve program ∧
            (selectOne view tag program lookup growth state).1 =
              ((view state).foundAtRest tag resolve (program.limitTo 1)).map List.head?) ∧
      (let weak := fun s => (view s).under .weak
        let snapshot := fun s => (view s).under .snapshot
        (Unwritten view tag program lookup state →
            select weak tag program lookup growth state =
              select snapshot tag program lookup growth state) ∧
          (Unwritten view tag (program.limitTo 1) lookup state →
            selectOne weak tag program lookup growth state =
              selectOne snapshot tag program lookup growth state)) ∧
      ∀ db : Database C,
        let found := (db.under .weak).findWith tag resolve program
        let first := (db.under .weak).findOneWith tag resolve program
        (db.under .snapshot).findWith tag resolve program = (found.1, found.2.under .snapshot) ∧
          (db.under .snapshot).findOneWith tag resolve program =
            (first.1, first.2.under .snapshot) := by
  refine ⟨fun hsnapshot hanswers => ?_, ?_, fun db => ?_⟩
  · have hanswer : ∀ program, (select view tag program lookup growth state).1 =
        (view state).foundAtRest tag resolve program := by
      intro program
      rw [select_of_snapshot growth hsnapshot, selectFixed_answer view hanswers]
    exact ⟨hanswer program, congrArg (Except.map List.head?) (hanswer (program.limitTo 1))⟩
  · intro weak snapshot
    refine ⟨select_under growth, fun h => ?_⟩
    rw [selectOne, selectOne, select_under growth h]
  · exact ⟨findWith_under db resolve program, findOneWith_under db resolve program⟩

/-- Neither a removal nor an addition nor the dropping of the collection reaches the answer to a query
that has begun. Without them both consistencies come to the same end. -/
theorem select_by_consistency_dropped :
    let one : Measurement := ⟨some 1⟩
    let two : Measurement := ⟨some 2⟩
    let db : Database Measurement.catalog :=
      { config := { scan := .snapshot }
        shelves := [{ tag := (), collection := { name := "m", records := [one, two] } }] }
    let resolve : Measurement → Fields := fun m _ =>
      .ok (m.value?.elim .null fun n => .number (.ofCount n))
    let writes : Schedule Measurement.catalog :=
      .request 1 (.remove () "m" two)
        (.request 1 (.save () "m" ⟨some 3⟩) (.request 1 (.drop "m") .done))
    let program := ((Program.on "m").whereField "n").isNotNull
    let found := fun (consistency : Consistency) (schedule : Schedule Measurement.catalog) =>
      select (fun s : Interleaving Measurement.catalog => s.database.under consistency) () program
        (fun m => Interleaving.lookup schedule.runAt (resolve m)) schedule.size { database := db }
    (found .snapshot writes).1 = .ok [one, two] ∧
      (found .snapshot writes).2.database.has "m" = false ∧
      (found .weak writes).1 = .ok [one, ⟨some 3⟩] ∧
      found .weak .done = found .snapshot .done := by
  intro one two db resolve writes program found
  have hwritten := select_by_consistency
    (fun s : Interleaving Measurement.catalog => s.database.under .snapshot) () resolve
    (fun m => Interleaving.lookup writes.runAt (resolve m)) writes.size program { database := db }
  have hunwritten := select_by_consistency Interleaving.database () resolve
    (fun m => Interleaving.lookup Schedule.done.runAt (resolve m)) 0 program { database := db }
  refine ⟨?_, ?_, ?_, ?_⟩
  · exact (hwritten.1 rfl fun _ _ _ => rfl).1.trans rfl
  · rfl
  · rfl
  · exact hunwritten.2.1.1 (unwritten_of_keeps (fun _ _ _ h => h) fun _ _ h => h)

end Database

end RecordStore
