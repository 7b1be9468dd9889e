import QueryTyping.Database.IpAddress
import QueryTyping.Text.Percent
import QueryTyping.Text.Quoted
import QueryTyping.Text.Utf8

namespace QueryTyping.Database

inductive NumberFault where
  | empty
  | badDigit
  | tooLarge
  deriving DecidableEq, Repr

def NumberFault.message : NumberFault → String
  | empty => "cannot parse integer from empty string"
  | badDigit => "invalid digit found in string"
  | tooLarge => "number too large to fit in target type"

inductive ParameterFault where
  | unknownMode (value : String)
  | number (fault : NumberFault)
  | badIpAddress
  deriving DecidableEq, Repr

def ParameterFault.message : ParameterFault → String
  | unknownMode v =>
    "error with configuration: unknown value " ++ Text.quoted v ++ " for `ssl_mode`"
  | number f => f.message
  | badIpAddress => "invalid IP address syntax"

/-- A digit that is none is told before a number that grows too large there. -/
def readDigits (limit n : Nat) : List Char → Except NumberFault Nat
  | [] => .ok n
  | c :: s =>
    if !c.isDigit then .error .badDigit
    else
      let n := n * 10 + (c.toNat - '0'.toNat)
      if n < limit then readDigits limit n s else .error .tooLarge

def readNumber (limit : Nat) (s : String) : Except NumberFault Nat :=
  match s.toList with
  | [] => .error .empty
  | ['+'] => .error .badDigit
  | '+' :: s => readDigits limit 0 s
  | s => readDigits limit 0 s

def plainText (s : List Char) : String :=
  String.ofList
    (Text.utf8Lossy (Text.percentBytes (s.map fun c => if c = '+' then ' ' else c)))

def parameters (query : List Char) : List (String × String) :=
  let pair (s : List Char) : String × String :=
    let (name, value) := (Text.cutFirst '=' s).getD (s, [])
    (plainText name, plainText value)
  ((Text.pieces '&' query).filter fun s => !s.isEmpty).map pair

structure Endpoint where
  folder : Option String
  port : Nat
  deriving DecidableEq, Repr

namespace Endpoint

def default : Endpoint :=
  ⟨none, 5432⟩

def socket? (e : Endpoint) : Option String :=
  e.folder.map fun f => f ++ "/.s.PGSQL." ++ e.port.repr

def socketLimit : Nat :=
  107

def refusal (e : Endpoint) : String :=
  "error communicating with database: " ++
    match e.socket? with
    | none => "Connection refused (os error 111)"
    | some path =>
      if '\x00' ∈ path.toList then "paths must not contain interior null bytes"
      else if socketLimit < path.utf8ByteSize then "path must be shorter than SUN_LEN"
      else "No such file or directory (os error 2)"

def modes : List String :=
  ["disable", "allow", "prefer", "require", "verify-ca", "verify-full"]

def checkMode (value : String) : Except ParameterFault Unit :=
  if modes.contains (String.ofList (value.toList.map Char.toLower)) then .ok ()
  else .error (.unknownMode value)

def otherNames : List String :=
  ["sslrootcert", "ssl-root-cert", "ssl-ca", "sslcert", "ssl-cert", "sslkey", "ssl-key", "dbname",
    "user", "password", "application_name", "options"]

def isKnown (name : String) : Bool :=
  otherNames.contains name || "options[".toList.isPrefixOf name.toList

def set (e : Endpoint) (name value : String) : Except ParameterFault (Option Endpoint) :=
  match name with
  | "sslmode" | "ssl-mode" => do
    checkMode value
    return some e
  | "statement-cache-capacity" => do
    let _ ← (readNumber UInt64.size value).mapError .number
    return some e
  | "port" => do
    let n ← (readNumber UInt16.size value).mapError .number
    return some { e with port := n }
  | "hostaddr" =>
    if isIpv4 value.toList || isIpv6 value.toList then .ok (some e) else .error .badIpAddress
  | "host" =>
    if value.toList.head? = some '/' then .ok (some { e with folder := some value })
    else .ok (some e)
  | name => .ok (if isKnown name then some e else none)

def setAll (e : Endpoint) :
    List (String × String) → List (String × String) × Except ParameterFault Endpoint
  | [] => ([], .ok e)
  | p :: ps =>
    match e.set p.1 p.2 with
    | .error f => ([], .error f)
    | .ok (some e) => setAll e ps
    | .ok none =>
      let r := setAll e ps
      (p :: r.1, r.2)

end Endpoint

end QueryTyping.Database
