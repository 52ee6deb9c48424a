/-!
# Configuration

How a store behaves: whether a scan reads each record at its turn or copies the collection first,
and whether a repository creates the collection that it finds missing.
-/

namespace RecordStore

/-- How a scan observes writes to its collection. -/
inductive Consistency
  | weak
  | snapshot
deriving DecidableEq

namespace Consistency

/-- The word for a consistency in a configuration. -/
def word : Consistency → String
  | weak => "weak"
  | snapshot => "snapshot"

/-- The name of a consistency in a description. -/
def name : Consistency → String
  | weak => "Weak"
  | snapshot => "Snapshot"

end Consistency

structure Config where
  scan : Consistency := .weak
  createMissing : Bool := true
deriving DecidableEq

namespace Config

def describe (config : Config) : String :=
  "DatabaseConfig \x7b scan: " ++ config.scan.name ++ ", create_missing: " ++
    toString config.createMissing ++ " \x7d"

end Config

end RecordStore
