import RecordStore.Scan.Event
import RecordStore.Session.Basic

/-!
# Scans

A scan evaluates records one after the other, each in a session of its own, and collects those that
match in their order. It ends when the records do, when it has as many matches as are wanted, or
with the first record that cannot be evaluated; in the last case there are no results. Every
evaluation and the end of the scan are reported.

The records are either a list that is fixed when the scan begins or are fetched by position, each at
its turn, from a state that may have changed meanwhile. Both kinds of scan treat a record in the
same way.
-/

namespace RecordStore

/-- How far a scan has come: how many records it has evaluated, and which of them match. -/
structure Tally (ρ : Type) where
  scanned : Nat := 0
  matched : Array ρ := #[]

inductive Turn (ρ : Type)
  | onward (tally : Tally ρ)
  | full (tally : Tally ρ)
  | aborted (error : ScanError)

/-- A scan: the name under which it reports, and how many matches end it, if any number does. -/
structure Scan where
  collection : String
  limit : Option Nat

namespace Tally

variable {ρ : Type}

def add (tally : Tally ρ) (record : ρ) (hit : Bool) : Tally ρ :=
  { scanned := tally.scanned + 1
    matched := if hit then tally.matched.push record else tally.matched }

end Tally

namespace Scan

variable {σ ρ : Type} [Reports σ]

/-- Evaluates one record and says how to go on. -/
def consider (scan : Scan) (judge : ρ → σ → Except EvalError Bool × σ) (tally : Tally ρ)
    (record : ρ) (state : σ) : Turn ρ × σ :=
  match judge record state with
  | (.error cause, state) =>
    (.aborted ⟨tally.scanned, cause⟩,
      Reports.report (.aborted scan.collection tally.scanned cause) state)
  | (.ok hit, state) =>
    let state := Reports.report (.evaluated scan.collection tally.scanned hit) state
    let next := tally.add record hit
    (if hit && scan.limit.any (· ≤ next.matched.size) then .full next else .onward next, state)

def finish (scan : Scan) (tally : Tally ρ) (state : σ) : Except ScanError (List ρ) × σ :=
  (.ok tally.matched.toList,
    Reports.report
      (.completed scan.collection tally.scanned tally.matched.size scan.limit) state)

def overList (scan : Scan) (judge : ρ → σ → Except EvalError Bool × σ) (tally : Tally ρ) :
    List ρ → σ → Except ScanError (List ρ) × σ
  | [], state => scan.finish tally state
  | record :: rest, state =>
    match scan.consider judge tally record state with
    | (.onward next, state) => scan.overList judge next rest state
    | (.full last, state) => scan.finish last state
    | (.aborted error, state) => (.error error, state)

/-- Scans records that are fetched by position, each at its turn. The first position without a
record ends the scan, and so does the bound on the number of records. -/
def overPositions (scan : Scan) (fetch : Nat → σ → Option ρ)
    (judge : ρ → σ → Except EvalError Bool × σ) :
    (bound : Nat) → Tally ρ → σ → Except ScanError (List ρ) × σ
  | 0, tally, state => scan.finish tally state
  | bound + 1, tally, state =>
    match fetch tally.scanned state with
    | none => scan.finish tally state
    | some record =>
      match scan.consider judge tally record state with
      | (.onward next, state) => scan.overPositions fetch judge bound next state
      | (.full last, state) => scan.finish last state
      | (.aborted error, state) => (.error error, state)

end Scan

/-! ### Queries over lists of records -/

namespace Program

variable {σ ρ : Type} [Reports σ]

def scan (program : Program) (limit : Option Nat) : Scan :=
  ⟨program.collection.getD "-", limit⟩

/-- The records of a list that match a program, up to its limit. -/
def execute (program : Program) (lookup : ρ → Session.Lookup σ) (records : List ρ) (state : σ) :
    Except ScanError (List ρ) × σ :=
  (program.scan program.limit).overList (fun record => program.judge (lookup record)) {} records
    state

/-- The first record of a list that matches a program. The scan ends there. -/
def first (program : Program) (lookup : ρ → Session.Lookup σ) (records : List ρ) (state : σ) :
    Except ScanError (Option ρ) × σ :=
  let found :=
    (program.scan (some 1)).overList (fun record => program.judge (lookup record)) {} records
      state
  (found.1.map List.head?, found.2)

/-- How many records of a list match a program, up to its limit. -/
def count (program : Program) (lookup : ρ → Session.Lookup σ) (records : List ρ) (state : σ) :
    Except ScanError Nat × σ :=
  let found := program.execute lookup records state
  (found.1.map List.length, found.2)

end Program

/-- What the queries over a list leave behind: the events, and every lookup as the position of its
record and the name of the field. -/
structure Trace where
  events : Array Event := #[]
  lookups : Array (Nat × String) := #[]

instance : Reports Trace := ⟨fun event trace => { trace with events := trace.events.push event }⟩

/-- The lookup that answers from the fixed fields of the record at a position and notes the names.
-/
def Fields.traced (fields : Fields) (position : Nat) : Session.Lookup Trace :=
  fun name trace =>
    (fields name, { trace with lookups := trace.lookups.push (position, name) })

end RecordStore
