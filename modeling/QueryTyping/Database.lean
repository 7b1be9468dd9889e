import QueryTyping.Catalog.Engine
import QueryTyping.Database.Address
import QueryTyping.Database.Parameter

namespace QueryTyping.Database

inductive ConnectFault where
  | address (fault : AddressFault)
  | text (fault : Text.Utf8Fault)
  | parameter (fault : ParameterFault)
  | unreachable (place : Endpoint)
  deriving DecidableEq, Repr

namespace ConnectFault

def configuration (message : String) : String :=
  "error with configuration: " ++ message

def message : ConnectFault → String
  | address f => configuration f.message
  | text f => configuration f.message
  | parameter f => configuration f.message
  | unreachable e => e.refusal

def engineFault (f : ConnectFault) : Catalog.EngineFault :=
  .connection f.message

end ConnectFault

structure Attempt where
  ignored : List (String × String)
  outcome : Except ConnectFault Catalog.Engine

def readPart (s : List Char) : Except ConnectFault String :=
  let bytes := Text.percentBytes s
  match Text.utf8Fault? 0 (Text.utf8Pieces bytes) with
  | some f => .error (.text f)
  | none => .ok (String.ofList (Text.utf8Lossy bytes))

def Address.endpoint (a : Address) : Except ConnectFault Endpoint := do
  let folder ←
    if (Text.percentBytes a.host).head? = some 0x2F then some <$> readPart a.host else pure none
  let _ ← readPart a.user
  let _ ← readPart a.password
  let _ ← readPart (a.path.dropWhile (· = '/'))
  return ⟨folder, a.port.getD Endpoint.default.port⟩

def locate (url : String) : Except ConnectFault (Endpoint × List (String × String)) := do
  let a ← (Address.parse url).mapError ConnectFault.address
  return (← a.endpoint, parameters a.query)

def connect (engine? : String → Option Catalog.Engine) (url : String) : Attempt :=
  match locate url with
  | .error f => ⟨[], .error f⟩
  | .ok (e, ps) =>
    match e.setAll ps with
    | (ignored, .error f) => ⟨ignored, .error (.parameter f)⟩
    | (ignored, .ok e) =>
      match engine? url with
      | some engine => ⟨ignored, .ok engine⟩
      | none => ⟨ignored, .error (.unreachable e)⟩

end QueryTyping.Database
