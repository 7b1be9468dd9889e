import QueryTyping.Catalog.Engine

namespace QueryTyping.Catalog

structure StatementRecord where
  sql : String
  statement : Statement
  fault : Option EngineFault
  latency : Option Nat
  deriving DecidableEq, Repr

structure TypeRecord where
  oid : Oid
  header : TypeHeader
  labels : List String
  fields : List (String × Oid)
  headerFault : Option EngineFault
  partsFault : Option EngineFault
  deriving DecidableEq, Repr

/-- Of two records with one key the later one counts. -/
structure Snapshot where
  statements : List StatementRecord
  types : List TypeRecord
  lostAfter : Option Nat
  deriving DecidableEq, Repr

namespace Snapshot

def statement? (s : Snapshot) (sql : String) : Option StatementRecord :=
  s.statements.reverse.find? fun r => r.sql = sql

def type? (s : Snapshot) (oid : Oid) : Option TypeRecord :=
  s.types.reverse.find? fun r => r.oid = oid

def isLost (s : Snapshot) (earlier : List Call) : Bool :=
  match s.lostAfter with
  | some n => n ≤ earlier.length
  | none => false

def unlessLost (s : Snapshot) (earlier : List Call) (answer : Except EngineFault α) :
    Except EngineFault α :=
  if s.isLost earlier then .error (.connection "connection lost") else answer

def orFault (fault : Option EngineFault) (a : α) : Except EngineFault α :=
  match fault with
  | some f => .error f
  | none => .ok a

def typeRecord (s : Snapshot) (oid : Oid) : Except EngineFault TypeRecord :=
  match s.type? oid with
  | some r => .ok r
  | none => .error (.rejected ("cache lookup failed for type " ++ oid.val.toNat.repr))

def engine (s : Snapshot) : Engine where
  latency earlier sql :=
    if s.isLost earlier then none else (s.statement? sql).bind StatementRecord.latency
  prepare earlier sql := s.unlessLost earlier <|
    match s.statement? sql with
    | some r => orFault r.fault r.statement
    | none => .error (.rejected "unknown statement")
  header earlier oid := s.unlessLost earlier do
    let r ← s.typeRecord oid
    orFault r.headerFault r.header
  labels earlier oid := s.unlessLost earlier do
    let r ← s.typeRecord oid
    orFault r.partsFault r.labels
  fields earlier oid := s.unlessLost earlier do
    let r ← s.typeRecord oid
    orFault r.partsFault r.fields

end Snapshot

end QueryTyping.Catalog
