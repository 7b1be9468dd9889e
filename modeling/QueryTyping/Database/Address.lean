import QueryTyping.Database.IpAddress
import QueryTyping.Text.Percent
import QueryTyping.Text.Utf8

namespace QueryTyping.Database

inductive AddressFault where
  | noScheme
  | noHost
  | badIpv4
  | badIpv6
  | badHost
  | badDomain
  | badPort
  deriving DecidableEq, Repr

def AddressFault.message : AddressFault → String
  | noScheme => "relative URL without a base"
  | noHost => "empty host"
  | badIpv4 => "invalid IPv4 address"
  | badIpv6 => "invalid IPv6 address"
  | badHost => "invalid domain character"
  | badDomain => "invalid international domain name"
  | badPort => "invalid port number"

structure Address where
  user : List Char
  password : List Char
  host : List Char
  port : Option Nat
  path : List Char
  query : List Char
  deriving DecidableEq, Repr

def significant (s : List Char) : List Char :=
  let drop (s : List Char) := (s.dropWhile fun c => c ≤ ' ').reverse
  (drop (drop s)).filter fun c => c != '\t' && c != '\n' && c != '\r'

def isSchemeChar (c : Char) : Bool :=
  c.isAlphanum || c == '+' || c == '-' || c == '.'

def cutScheme? (s : List Char) : Option (String × List Char) :=
  let scheme := s.takeWhile isSchemeChar
  match s.dropWhile isSchemeChar with
  | ':' :: r =>
    if scheme.head?.any Char.isAlpha then some (String.ofList (scheme.map Char.toLower), r)
    else none
  | _ => none

inductive Shape where
  | web
  | file
  | plain
  deriving DecidableEq, Repr

namespace Shape

def ofScheme : String → Shape
  | "http" | "https" | "ws" | "wss" | "ftp" => web
  | "file" => file
  | _ => plain

def isSlash (k : Shape) (c : Char) : Bool :=
  c == '/' || (k != plain && c == '\\')

def afterSlashes? (k : Shape) (s : List Char) : Option (List Char) :=
  match k, s with
  | web, s => some (s.dropWhile web.isSlash)
  | k, a :: b :: s => if k.isSlash a && k.isSlash b then some s else none
  | _, _ => none

def inAuthority (k : Shape) (c : Char) : Bool :=
  !k.isSlash c && c != '?' && c != '#'

end Shape

def cutPort (inside : Bool) : List Char → List Char × Option (List Char)
  | [] => ([], none)
  | c :: s =>
    if c = ':' ∧ inside = false then ([], some s)
    else
      let p := cutPort (c = '[' || (inside && c != ']')) s
      (c :: p.1, p.2)

def isHostStop (c : Char) : Bool :=
  ['\x00', '\t', '\n', '\r', ' ', '#', '/', ':', '<', '>', '?', '@', '[', '\\', ']', '^',
    '|'].contains c

def isDomainStop (c : Char) : Bool :=
  isHostStop c || c < ' ' || c == '\x7F' || c == '%'

def checkDomain (s : List Char) : Except AddressFault Unit :=
  let bytes := Text.percentBytes s
  let domain := Text.utf8Lossy bytes
  if (Text.utf8Fault? 0 (Text.utf8Pieces bytes)).isSome || domain.any isDomainStop then
    .error .badDomain
  else if endsInNumber domain && !isLooseIpv4 domain then .error .badIpv4
  else .ok ()

def Shape.checkHost (k : Shape) (host : List Char) : Except AddressFault Unit :=
  match host with
  | '[' :: s =>
    if s.getLast? = some ']' ∧ isIpv6 s.dropLast then .ok () else .error .badIpv6
  | _ =>
    if k ≠ .plain then checkDomain host
    else if host.any isHostStop then .error .badHost
    else .ok ()

def parsePort (s : List Char) : Except AddressFault (Option Nat) :=
  let n := Nat.ofDigitChars 10 s 0
  if s.all Char.isDigit && n < UInt16.size then .ok (if s.isEmpty then none else some n)
  else .error .badPort

def parseAuthority (k : Shape) (more : Bool) (s : List Char) :
    Except AddressFault (Address × List Char) := do
  let (credentials, hostPort) := (Text.cutLast '@' s).getD ([], s)
  if credentials.isEmpty && '@' ∈ s && hostPort.isEmpty && more then throw .noHost
  let (host, port) := cutPort false hostPort
  if host.isEmpty && (k = .web || port.isSome) then throw .noHost
  k.checkHost host
  let isPortChar (c : Char) : Bool := c != '\\'
  let n ← parsePort ((port.getD []).takeWhile isPortChar)
  let (user, password) := (Text.cutFirst ':' credentials).getD (credentials, [])
  if host.isEmpty && !(user.isEmpty && password.isEmpty) then throw .noHost
  return (⟨user, password, host, n, [], []⟩, (port.getD []).dropWhile isPortChar)

def isDrive : List Char → Bool
  | [c, d] => c.isAlpha && (d == ':' || d == '|')
  | _ => false

def noAuthority : Address :=
  ⟨[], [], [], none, [], []⟩

def parseFileHost (s : List Char) : Except AddressFault (Address × List Char) :=
  if s.isEmpty then .ok (noAuthority, [])
  else if isDrive s then .ok (noAuthority, '/' :: s)
  else do
    Shape.file.checkHost s
    return ({ noAuthority with host := s }, [])

def isDots (n : Nat) (s : List Char) : Bool :=
  Text.percentBytes s == List.replicate n 0x2E

def followDots (before : List (List Char)) : List (List Char) → List (List Char)
  | [] => before.reverse
  | s :: ss =>
    let here := if isDots 2 s then before.drop 1 else if isDots 1 s then before else s :: before
    if ss.isEmpty && (isDots 1 s || isDots 2 s) then ([] :: here).reverse
    else followDots here ss

def Shape.resolvePath (k : Shape) (s : List Char) : List Char :=
  let s := if k = .plain then s else s.map fun c => if c = '\\' then '/' else c
  match s with
  | '/' :: s => '/' :: List.intercalate ['/'] (followDots [] (Text.pieces '/' s))
  | s => s

def Address.parse (s : String) : Except AddressFault Address := do
  let some (scheme, rest) := cutScheme? (significant s.toList) | throw .noScheme
  let k := Shape.ofScheme scheme
  let withTail (a : Address) (tail : List Char) : Address :=
    let tail := tail.takeWhile (· ≠ '#')
    let (path, query) := (Text.cutFirst '?' tail).getD (tail, [])
    { a with path := k.resolvePath path, query := query }
  match k.afterSlashes? rest with
  | none => return withTail noAuthority rest
  | some s =>
    let authority := s.takeWhile k.inAuthority
    let tail := s.dropWhile k.inAuthority
    let (a, start) ←
      if k = .file then parseFileHost authority
      else parseAuthority k (!tail.isEmpty) authority
    return withTail a ((if start.isEmpty then [] else '/' :: start) ++ tail)

end QueryTyping.Database
