import QueryTyping.Catalog.Engine
import QueryTyping.Query
import QueryTyping.Text.Duration

namespace QueryTyping

def Oid.repr (o : Oid) : String :=
  o.val.toNat.repr

inductive Claimant where
  | type (head : Catalog.Head)
  | label (label : String) (head : Catalog.Head)
  deriving DecidableEq, Repr

def Claimant.describe : Claimant → String
  | type h => h.qualified ++ " (oid " ++ h.oid.repr ++ ")"
  | label l h =>
    "label " ++ Text.quoted l ++ " of " ++ h.qualified ++ " (oid " ++ h.oid.repr ++ ")"

inductive OverrideFault where
  | noSeparator
  | noKey
  | target (fault : Target.NameFault)
  deriving DecidableEq, Repr

def OverrideFault.message : OverrideFault → String
  | noSeparator => "expected NAME=TYPE"
  | noKey => "catalog type name is empty"
  | target f => f.message

inductive Failure where
  | connection (message : String)
  | unprepared (query message : String)
  | noRows (query : String) (kind : ResultKind)
  | paramCount (query : String) (declared actual : Nat)
  | unmapped (head : Catalog.Head)
  | unknownType (oid : Oid) (message : String)
  | nameCollision (package name : String) (first second : Claimant)
  | cycle (chain : List String)
  | invalidOverride (key value : String) (fault : OverrideFault)
  | invalidAcronym (entry : String)
  | deadlineExceeded (milliseconds : Nat)
  deriving DecidableEq, Repr

namespace Failure

def ofPrepare (query : String) : Catalog.EngineFault → Failure
  | .connection m => connection m
  | .rejected m => unprepared query m

def ofLookup (oid : Oid) : Catalog.EngineFault → Failure
  | .connection m => connection m
  | .rejected m => unknownType oid m

def message : Failure → String
  | connection m => "connection error: " ++ m
  | unprepared q m => "query " ++ q ++ " failed to prepare: " ++ m
  | noRows q k =>
    "query " ++ q ++ " has incompatible result kind :" ++ k.name ++
      "; the query doesn't return any rows"
  | paramCount q d a =>
    "query " ++ q ++ " declares " ++ d.repr ++ " parameter names but the database reports " ++
      a.repr ++ " parameters"
  | unmapped h =>
    "no type mapping for catalog type " ++ h.qualified ++ " (oid " ++ h.oid.repr ++
      "); add a type override for it"
  | unknownType o m => "catalog lookup for oid " ++ o.repr ++ " failed: " ++ m
  | nameCollision p n a b =>
    "type name " ++ n ++ " in package " ++ Text.quoted p ++ " is claimed by both " ++ a.describe ++
      " and " ++ b.describe ++ "; add a type override or an acronym to separate them"
  | cycle c => "composite type cycle: " ++ String.intercalate " -> " c
  | invalidOverride k v f =>
    "invalid type override " ++ Text.quoted v ++ " for " ++ k ++ ": " ++ f.message
  | invalidAcronym e =>
    "invalid acronym " ++ Text.quoted e ++ ": expected WORD or WORD=RENDERING"
  | deadlineExceeded ms => "generation run exceeded its deadline of " ++ Text.duration ms

end Failure

end QueryTyping
