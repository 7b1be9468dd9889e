import QueryTyping.Target.Type
import QueryTyping.Text.Quoted

namespace QueryTyping

inductive ResultKind where
  | exec
  | one
  | many
  deriving DecidableEq, Repr

namespace ResultKind

def all : List ResultKind :=
  [exec, one, many]

def name : ResultKind → String
  | exec => "exec"
  | one => "one"
  | many => "many"

def ofName? (s : String) : Option ResultKind :=
  all.find? fun k => k.name == s

def parse? (s : String) : Option ResultKind :=
  ofName? (String.ofList (s.toList.map Char.toLower))

theorem ofName?_name (k : ResultKind) : ofName? k.name = some k := by
  cases k <;> decide

end ResultKind

structure SourceQuery where
  name : String
  sql : String
  paramNames : List String
  kind : ResultKind
  deriving DecidableEq, Repr

structure InputParam where
  name : String
  ident : String
  catalogType : CatalogType
  targetType : TargetType
  nullable : Bool
  deriving Repr

structure OutputColumn where
  catalogName : String
  name : String
  ident : String
  catalogType : CatalogType
  targetType : TargetType
  nullable : Bool
  deriving Repr

structure TypedQuery where
  name : String
  sql : String
  kind : ResultKind
  inputs : List InputParam
  outputs : List OutputColumn
  deriving Repr

end QueryTyping
