import RecordStore.Finder.Error
import RecordStore.Session.Error

/-!
# Why an operation on the store fails

An operation fails when there is no collection of the name it speaks of, when that collection holds
records of another type, when a query cannot be made, or when a scan meets a record that cannot be
evaluated.
-/

namespace RecordStore

/-- Why an operation on the store failed. -/
inductive StoreError
  | scan (error : ScanError)
  | collectionNotFound (name : String)
  | collectionTypeMismatch (name requested actual : String)
  | invalidQuery (fault : QueryFault)
  | argumentCountMismatch (expected actual : Nat)
deriving DecidableEq

namespace StoreError

def message : StoreError → String
  | scan error => error.message
  | collectionNotFound name => "collection '" ++ name ++ "' not found"
  | collectionTypeMismatch name requested actual =>
    "collection '" ++ name ++ "' holds " ++ actual ++ ", not " ++ requested
  | invalidQuery fault => "invalid query: " ++ fault.message
  | argumentCountMismatch expected actual =>
    "query expects " ++ toString expected ++ " argument(s), got " ++ toString actual

def ofBindError : BindError → StoreError
  | .wrongCount expected actual => argumentCountMismatch expected actual
  | .fault fault => invalidQuery fault

end StoreError

end RecordStore
