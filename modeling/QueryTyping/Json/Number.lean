import QueryTyping.Decimal.Binary
import QueryTyping.Json.Fault

namespace QueryTyping.Json

inductive Number where
  | integer (n : Int)
  | float (negative : Bool) (magnitude : Decimal.Binary)
  deriving DecidableEq, Repr

namespace Number

def digitValue (c : Char) : Nat :=
  c.toNat - '0'.toNat

def absorb (n : Nat) : List Char → Nat × Nat
  | [] => (n, 0)
  | c :: s =>
    let m := n * 10 + digitValue c
    if m < UInt64.size then absorb m s else (n, s.length + 1)

/-- `significand · 10 ^ e`, computed with one rounding for each factor. The power is taken in steps
of at most 308, the largest that a factor can have. -/
def scaled (x : Decimal.Binary) (e : Int) : Option Decimal.Binary :=
  if e.natAbs ≤ 308 then
    if 0 ≤ e then
      let y := x.mul (.powerOfTen e.natAbs)
      if y.isInfinite then none else some y
    else some (x.div (.powerOfTen e.natAbs))
  else if x.mantissa = 0 then some x
  else if 0 ≤ e then none
  else scaled (x.div (.powerOfTen 308)) (e + 308)
termination_by e.natAbs
decreasing_by omega

structure Parts where
  negative : Bool
  whole : List Char
  fraction : List Char
  exponent : Option (Bool × List Char)

def maxExponent : Nat :=
  Nat.pow 2 31 - 1

def Parts.value (p : Parts) : Except Fault Number :=
  let (n, dropped) := absorb 0 p.whole
  let (m, droppedAfter) := absorb n p.fraction
  let shift : Int := dropped - (p.fraction.length - droppedAfter : Nat)
  let float (e : Int) : Except Fault Number :=
    match scaled (.ofRatio (m, 1)) e with
    | some x => .ok (.float p.negative x)
    | none => .error .numberOutOfRange
  match p.exponent with
  | some (down, digits) =>
    let e := (Nat.ofDigitChars 10 digits 0)
    if maxExponent < e then
      if m ≠ 0 ∧ !down then .error .numberOutOfRange else .ok (.float p.negative .zero)
    else float (if down then shift - e else shift + e)
  | none =>
    if p.fraction.isEmpty ∧ dropped = 0 then
      if !p.negative then .ok (.integer m)
      else if m = 0 ∨ Nat.pow 2 63 < m then float 0
      else .ok (.integer (-m))
    else float shift

/-- Positions are written out while the first digit is at most the fifth after the point or the
sixteenth before it. -/
def floatWindow : Decimal.Binary.Window :=
  ⟨-5, 15⟩

def describe : Number → String
  | integer (.ofNat n) => "integer `" ++ n.repr ++ "`"
  | integer (.negSucc n) => "integer `-" ++ (n + 1).repr ++ "`"
  | float negative x =>
    let sign := if negative then "-" else ""
    "floating point `" ++ sign ++ String.ofList (x.text floatWindow) ++ "`"

end Number

end QueryTyping.Json
