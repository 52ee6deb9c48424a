import RecordStore.Session.Error

/-!
# Events

What is reported while queries run and collections come and go: one event for every record that is
evaluated, one at the end of every scan, and one for every collection that is created or dropped. An
event has a level, a message and named details.
-/

namespace RecordStore

inductive Event
  | evaluated (collection : String) (position : Nat) (hit : Bool)
  | completed (collection : String) (scanned matched : Nat) (limit : Option Nat)
  | aborted (collection : String) (position : Nat) (cause : EvalError)
  | created (collection record : String)
  | dropped (collection : String)
deriving DecidableEq

namespace Event

inductive Level
  | trace
  | debug
  | warn
deriving DecidableEq

def Level.name : Level → String
  | trace => "TRACE"
  | debug => "DEBUG"
  | warn => "WARN"

inductive Detail
  | text (s : String)
  | count (n : Nat)
  | flag (b : Bool)
deriving DecidableEq

def level : Event → Level
  | evaluated _ _ _ => .trace
  | aborted _ _ _ => .warn
  | completed _ _ _ _ | created _ _ | dropped _ => .debug

def message : Event → String
  | evaluated _ _ _ => "evaluated record"
  | completed _ _ _ _ => "scan complete"
  | aborted _ _ _ => "scan aborted"
  | created _ _ => "collection created"
  | dropped _ => "collection dropped"

def limitText : Option Nat → String
  | none => "None"
  | some n => "Some(" ++ toString n ++ ")"

def details : Event → List (String × Detail)
  | evaluated collection position hit =>
    [("collection", .text collection), ("position", .count position), ("hit", .flag hit)]
  | completed collection scanned matched limit =>
    [("collection", .text collection), ("scanned", .count scanned), ("matched", .count matched),
      ("limit", .text (limitText limit))]
  | aborted collection position cause =>
    [("collection", .text collection), ("position", .count position),
      ("error", .text cause.message)]
  | created collection record =>
    [("collection", .text collection), ("record", .text record)]
  | dropped collection => [("collection", .text collection)]

end Event

/-- A state in which events can be reported. -/
class Reports (σ : Type) where
  report : Event → σ → σ

instance : Reports (Array Event) := ⟨fun event events => events.push event⟩

end RecordStore
