namespace QueryTyping.Decimal

structure Binary where
  mantissa : Nat
  exponent : Int
  deriving DecidableEq, Repr

def roundDiv (a b : Nat) : Nat :=
  let q := a / b
  let r := a % b
  if 2 * r < b ∨ (2 * r = b ∧ q % 2 = 0) then q else q + 1

def scale (base : Nat) (e : Int) (p : Nat × Nat) : Nat × Nat :=
  if 0 ≤ e then (p.1 * base.pow e.toNat, p.2) else (p.1, p.2 * base.pow (-e).toNat)

namespace Binary

def zero : Binary :=
  ⟨0, -1074⟩

def ratio (x : Binary) : Nat × Nat :=
  scale 2 x.exponent (x.mantissa, 1)

def exponentFor (a b : Nat) : Int :=
  let e : Int := Nat.log2 a - Nat.log2 b
  let p := scale 2 (-e) (a, b)
  max (if p.1 < p.2 then e - 53 else e - 52) (-1074)

def ofRatio (p : Nat × Nat) : Binary :=
  if p.1 = 0 then zero
  else
    let e := exponentFor p.1 p.2
    let s := scale 2 (-e) p
    let m := roundDiv s.1 s.2
    if m = Nat.pow 2 53 then ⟨Nat.pow 2 52, e + 1⟩ else ⟨m, e⟩

def isInfinite (x : Binary) : Bool :=
  971 < x.exponent

def mul (x y : Binary) : Binary :=
  ofRatio (x.ratio.1 * y.ratio.1, x.ratio.2 * y.ratio.2)

def div (x y : Binary) : Binary :=
  ofRatio (x.ratio.1 * y.ratio.2, x.ratio.2 * y.ratio.1)

def powerOfTen (n : Nat) : Binary :=
  ofRatio (Nat.pow 10 n, 1)

def leadingPower (p : Nat × Nat) : Int :=
  let e : Int := (Nat.toDigits 10 p.1).length - (Nat.toDigits 10 p.2).length
  let s := scale 10 (-e) p
  if s.1 < s.2 then e - 1 else e

/-- The digits and the power of ten of a decimal with `n` digits that reads back as `x`; of two the
nearer one. -/
def decimalWith? (x : Binary) (n : Nat) : Option (Nat × Int) :=
  let k := leadingPower x.ratio - n + 1
  let s := scale 10 (-k) x.ratio
  let low := s.1 / s.2
  let readsBack (d : Nat) : Bool := ofRatio (scale 10 k (d, 1)) == x
  match readsBack low, readsBack (low + 1) with
  | true, true => some (roundDiv s.1 s.2, k)
  | true, false => some (low, k)
  | false, true => some (low + 1, k)
  | false, false => none

def dropZeros (d : Nat) (k : Int) : Nat × Int :=
  if d ≠ 0 ∧ d % 10 = 0 then dropZeros (d / 10) (k + 1) else (d, k)
termination_by d
decreasing_by omega

def shortest (x : Binary) : Nat × Int :=
  if x.mantissa = 0 then (0, 0)
  else
    let p := ((List.range 17).findSome? fun n => x.decimalWith? (n + 1)).getD (0, 0)
    dropZeros p.1 p.2

def positional (d : Nat) (k : Int) : List Char :=
  if 0 ≤ k then Nat.toDigits 10 (d * Nat.pow 10 k.toNat) ++ ['.', '0']
  else
    let n := (-k).toNat
    let fraction := Nat.toDigits 10 (d % Nat.pow 10 n)
    Nat.toDigits 10 (d / Nat.pow 10 n) ++
      '.' :: List.replicate (n - fraction.length) '0' ++ fraction

def scientific (d : Nat) (k : Int) : List Char :=
  let digits := Nat.toDigits 10 d
  let e := k + digits.length - 1
  let fraction := if digits.tail.isEmpty then [] else '.' :: digits.tail
  digits.take 1 ++ fraction ++ 'e' :: (if e < 0 then '-' else '+') :: Nat.toDigits 10 e.natAbs

structure Window where
  low : Int
  high : Int
  deriving DecidableEq, Repr

def text (w : Window) (x : Binary) : List Char :=
  let (d, k) := x.shortest
  let e := k + (Nat.toDigits 10 d).length - 1
  if w.low ≤ e ∧ e ≤ w.high then positional d k else scientific d k

end Binary

end QueryTyping.Decimal
