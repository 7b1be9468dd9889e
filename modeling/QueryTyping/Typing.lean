import QueryTyping.Catalog.Fetch
import QueryTyping.Clock
import QueryTyping.Event
import QueryTyping.Resolution

namespace QueryTyping

structure Session where
  cache : Catalog.Cache
  registry : Registry
  clock : Clock
  events : List Event
  deriving Repr

namespace Session

def empty : Session :=
  ⟨.empty, .empty, .start, []⟩

def calls (s : Session) : List Catalog.Call :=
  s.cache.calls

def tell (s : Session) (events : List Event) : Session :=
  { s with events := s.events ++ events }

end Session

def Catalog.Cache.eventsSince (new old : Catalog.Cache) : List Event :=
  ((new.since old).filter fun t => (Catalog.wellKnown? t.oid).isNone).map fun t => .fetched t.head

def Registry.eventsSince (own : String) (new old : Registry) : List Event :=
  (new.since old).map fun p => .resolved p.1.head (p.2.spelledIn own)

abbrev Typing := EStateM Failure Session

namespace Typing

open Naming (fallbackName fresh)
open Resolution (orElse)

def tell (e : Event) : Typing Unit :=
  modify fun s => s.tell [e]

def fetch (e : Catalog.Engine) (oid : Oid) : Typing CatalogType := fun s =>
  let learn (c : Catalog.Cache) : Session := { s.tell (c.eventsSince s.cache) with cache := c }
  match Catalog.fetch e oid s.cache with
  | .ok t c => .ok t (learn c)
  | .error f c => .error f (learn c)

def resolve (s : Settings) (t : CatalogType) : Typing TargetType := fun σ =>
  let learn (r : Registry) : Session :=
    { σ.tell (r.eventsSince s.packagePath σ.registry) with registry := r }
  match QueryTyping.resolve s t σ.registry with
  | .ok t r => .ok t (learn r)
  | .error f r => .error f (learn r)

def prepare (e : Catalog.Engine) (limit : Option Nat) (q : SourceQuery) :
    Typing Catalog.Statement := fun σ =>
  let earlier := σ.calls
  let clock := (e.latency earlier q.sql).elim σ.clock σ.clock.sleep
  let σ' := { σ with
    cache := { σ.cache with calls := earlier ++ [.prepare q.sql] }
    clock := clock }
  let answer : EStateM.Result Failure Session Catalog.Statement :=
    match e.prepare earlier q.sql with
    | .ok st => .ok st σ'
    | .error f => .error (.ofPrepare q.name f) σ'
  match limit with
  | none => answer
  | some d => if clock.exceeds d then .error (.deadlineExceeded d) σ' else answer

def typeOf (e : Catalog.Engine) (s : Settings) (oid : Oid) : Typing (CatalogType × TargetType) := do
  let t ← fetch e oid
  return (t, ← resolve s t)

def paramIdent (s : Settings) (i : Nat) (used : List String) (name : String) : String :=
  fresh (orElse (s.caser.lowerIdent name) (fallbackName ("unnamedParam" ++ i.repr) name)) "" i used

def typeParams (e : Catalog.Engine) (s : Settings) (i : Nat) (used : List String) :
    List (String × Oid) → Typing (List InputParam)
  | [] => return []
  | (name, oid) :: params => do
    let ident := paramIdent s i used name
    let (c, t) ← typeOf e s oid
    return ⟨name, ident, c, t, false⟩ :: (← typeParams e s (i + 1) (ident :: used) params)

def columnNames (s : Settings) (i : Nat) (idents names : List String) (name : String) :
    String × String :=
  let ident := orElse (s.caser.upperIdent name) (fallbackName ("UnnamedColumn" ++ i.repr) name)
  if ident ∈ idents then
    (fresh ident "" i idents, fresh (name ++ "_" ++ i.repr) "_" i names)
  else (ident, name)

def typeColumns (e : Catalog.Engine) (s : Settings) (i : Nat) (idents names : List String) :
    List Catalog.Column → Typing (List OutputColumn)
  | [] => return []
  | column :: columns => do
    let (ident, name) := columnNames s i idents names column.name
    let (c, t) ← typeOf e s column.oid
    return ⟨column.name, name, ident, c, t, column.nullable.getD true⟩ ::
      (← typeColumns e s (i + 1) (ident :: idents) (name :: names) columns)

def columnsFor (q : SourceQuery) (columns : List Catalog.Column) :
    Except Failure (List Catalog.Column) :=
  match q.kind with
  | .exec => .ok []
  | k => if columns.isEmpty then .error (.noRows q.name k) else .ok columns

end Typing

def typeQuery (e : Catalog.Engine) (s : Settings) (limit : Option Nat) (q : SourceQuery) :
    Typing TypedQuery := do
  let st ← Typing.prepare e limit q
  Typing.tell (.prepared q.name st.params.length st.columns.length)
  if st.params.length ≠ q.paramNames.length then
    throw (.paramCount q.name q.paramNames.length st.params.length)
  let columns ← MonadExcept.ofExcept (Typing.columnsFor q st.columns)
  let inputs ← Typing.typeParams e s 0 [] (q.paramNames.zip st.params)
  let outputs ← Typing.typeColumns e s 0 [] [] columns
  return ⟨q.name, q.sql, q.kind, inputs, outputs⟩

end QueryTyping
