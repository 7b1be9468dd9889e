import QueryTyping.Catalog.Engine

namespace QueryTyping.Catalog

inductive DriverError where
  | database (message : String)
  | protocol (message : String)
  | configuration (message : String)
  | tls (message : String)
  | io (message : String)
  | columnNotFound (name : String)
  | rowNotFound
  | poolTimedOut
  | poolClosed
  | workerCrashed
  deriving DecidableEq, Repr

namespace DriverError

def message : DriverError → String
  | database m => m
  | protocol m => "encountered unexpected or invalid data: " ++ m
  | configuration m => "error with configuration: " ++ m
  | tls m => "error occurred while attempting to establish a TLS connection: " ++ m
  | io m => "error communicating with database: " ++ m
  | columnNotFound n => "no column found for name: " ++ n
  | rowNotFound =>
    "no rows returned by a query that expected to return at least one row"
  | poolTimedOut => "pool timed out while waiting for an open connection"
  | poolClosed => "attempted to acquire a connection on a closed pool"
  | workerCrashed => "attempted to communicate with a crashed background worker"

def fault : DriverError → EngineFault
  | database m => .rejected m
  | e => .connection e.message

end DriverError

end QueryTyping.Catalog
