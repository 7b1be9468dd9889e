import QueryTyping.Text.Cut
import QueryTyping.Text.Hex

namespace QueryTyping.Database

def isOctet (s : List Char) : Bool :=
  !s.isEmpty && s.all Char.isDigit && (s.length == 1 || s.head? != some '0') &&
    Nat.ofDigitChars 10 s 0 < 256

def isIpv4 (s : List Char) : Bool :=
  let parts := Text.pieces '.' s
  parts.length == 4 && parts.all isOctet

def digitsIn? (base : Nat) (s : List Char) : Option Nat :=
  s.foldlM (fun n c => do
    let d ← Text.hexValue c
    if d < base then some (n * base + d) else none) 0

def basedNumber? : List Char → Option Nat
  | [] => none
  | '0' :: c :: s => if c = 'x' ∨ c = 'X' then digitsIn? 16 s else digitsIn? 8 (c :: s)
  | s => digitsIn? 10 s

def hostParts (s : List Char) : List (List Char) :=
  let parts := Text.pieces '.' s
  if parts.length ≠ 1 ∧ parts.getLast? = some [] then parts.dropLast else parts

def endsInNumber (s : List Char) : Bool :=
  (hostParts s).getLast?.any fun p =>
    (!p.isEmpty && p.all Char.isDigit) || (basedNumber? p).isSome

/-- At most four numbers, of which the last fills all bytes that the others leave. -/
def isLooseIpv4 (s : List Char) : Bool :=
  match (hostParts s).mapM basedNumber? with
  | some l =>
    l.length ≤ 4 && l.dropLast.all (· < 256) && l.getLast?.any (· < Nat.pow 256 (5 - l.length))
  | none => false

def isGroup (s : List Char) : Bool :=
  !s.isEmpty && s.length ≤ 4 && s.all fun c => (Text.hexValue c).isSome

def groupCount? (allowed : Bool) (s : List Char) : Option Nat :=
  let groups := Text.pieces ':' s
  if s.isEmpty then some 0
  else if groups.all isGroup then some groups.length
  else if allowed && groups.getLast?.any isIpv4 && groups.dropLast.all isGroup then
    some (groups.length + 1)
  else none

def cutDoubleColon : List Char → Option (List Char × List Char)
  | ':' :: ':' :: s => some ([], s)
  | c :: s => (cutDoubleColon s).map fun p => (c :: p.1, p.2)
  | [] => none

def isIpv6 (s : List Char) : Bool :=
  match cutDoubleColon s with
  | none => groupCount? true s == some 8
  | some (a, b) =>
    match groupCount? false a, groupCount? true b with
    | some m, some n => m + n ≤ 7
    | _, _ => false

end QueryTyping.Database
