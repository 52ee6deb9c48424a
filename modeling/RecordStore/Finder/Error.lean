/-!
# Why a finder or a query is refused

A query is refused before it runs when it has no target, and a finder when its name does not say
what to look for or its arguments do not fit.
-/

namespace RecordStore

/-- Why a query could not be made. -/
inductive QueryFault
  | noTarget
  | badOpening (name : String)
  | noCriteria (name : String)
  | danglingConnective (name word : String)
  | badLimit (name : String)
  | tooFewArguments
deriving DecidableEq

def QueryFault.message : QueryFault → String
  | noTarget => "program has no target collection"
  | badOpening name => "'" ++ name ++ "' must start with findBy, findAllBy or findOneBy"
  | noCriteria name => "'" ++ name ++ "' has no criteria"
  | danglingConnective name word =>
    "'" ++ name ++ "': '" ++ word ++ "' must follow a field name"
  | badLimit name => "'" ++ name ++ "': limit must be a non-negative integer"
  | tooFewArguments => "not enough arguments"

/-- Why a finder could not be bound to its arguments. -/
inductive BindError
  | wrongCount (expected actual : Nat)
  | fault (fault : QueryFault)
deriving DecidableEq

end RecordStore
