import QueryTyping.Catalog.Type

namespace QueryTyping.Catalog

inductive EngineFault where
  | connection (message : String)
  | rejected (message : String)
  deriving DecidableEq, Repr

def EngineFault.message : EngineFault → String
  | connection m => "connection error: " ++ m
  | rejected m => m

structure Column where
  name : String
  oid : Oid
  nullable : Option Bool
  deriving DecidableEq, Repr

structure Statement where
  params : List Oid
  columns : List Column
  deriving DecidableEq, Repr

inductive TypeClass where
  | scalar
  | pseudo
  | enum
  | composite
  | domain (base : Oid)
  | array (elem : Oid)
  deriving DecidableEq, Repr

structure TypeHeader where
  name : String
  schema : Option String
  shape : TypeClass
  deriving DecidableEq, Repr

inductive Call where
  | prepare (sql : String)
  | header (oid : Oid)
  | labels (oid : Oid)
  | fields (oid : Oid)
  deriving DecidableEq, Repr

/-- The first argument of each answer lists the earlier calls, oldest first. -/
structure Engine where
  /-- How long a preparation sleeps, in milliseconds, if it does. -/
  latency : List Call → String → Option Nat
  prepare : List Call → String → Except EngineFault Statement
  header : List Call → Oid → Except EngineFault TypeHeader
  labels : List Call → Oid → Except EngineFault (List String)
  fields : List Call → Oid → Except EngineFault (List (String × Oid))

end QueryTyping.Catalog
