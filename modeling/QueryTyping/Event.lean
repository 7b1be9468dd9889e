import QueryTyping.Target.Type
import QueryTyping.Failure

namespace QueryTyping

structure Stats where
  queries : Nat
  enums : Nat
  composites : Nat
  catalogTypes : Nat
  deriving DecidableEq, Repr

inductive Event where
  | prepared (query : String) (params columns : Nat)
  | fetched (head : Catalog.Head)
  | resolved (head : Catalog.Head) (spelling : String)
  | typed (query : String) (inputs outputs : Nat)
  | finished (stats : Stats)
  deriving DecidableEq, Repr

inductive Level where
  | error
  | warn
  | info
  | debug
  deriving DecidableEq, Repr

namespace Level

def label : Level → String
  | error => "ERROR"
  | warn => "WARN"
  | info => "INFO"
  | debug => "DEBUG"

def rank : Level → Nat
  | error => 1
  | warn => 2
  | info => 3
  | debug => 4

end Level

namespace Event

def level : Event → Level
  | finished _ => .info
  | _ => .debug

def part : Event → String
  | prepared .. => "sqlinfer::inferrer"
  | fetched _ => "sqlinfer::catalog::fetcher"
  | resolved .. => "sqlinfer::resolver"
  | typed .. | finished _ => "sqlinfer::orchestrator"

def message : Event → String
  | prepared q p c =>
    "prepared query " ++ q ++ ": " ++ p.repr ++ " parameters, " ++ c.repr ++ " result columns"
  | fetched h => "fetched catalog type " ++ h.qualified ++ " (oid " ++ h.oid.repr ++ ")"
  | resolved h s => "resolved catalog type " ++ h.qualified ++ " to " ++ s
  | typed q i o => "typed query " ++ q ++ ": " ++ i.repr ++ " inputs, " ++ o.repr ++ " outputs"
  | finished s =>
    "typed " ++ s.queries.repr ++ " queries: " ++ s.enums.repr ++ " enums and " ++
      s.composites.repr ++ " composites synthesized from " ++ s.catalogTypes.repr ++
      " catalog types"

end Event

end QueryTyping
