namespace QueryTyping.Text

inductive Utf8Piece where
  | char (c : Char)
  | invalid (length : Nat)
  | cutOff
  deriving DecidableEq, Repr

def utf8Lead? (b : Nat) : Option (Nat × List (Nat × Nat)) :=
  let any := (0x80, 0xBF)
  if 0xC2 ≤ b ∧ b ≤ 0xDF then some (b - 0xC0, [any])
  else if b = 0xE0 then some (0, [(0xA0, 0xBF), any])
  else if b = 0xED then some (0xD, [(0x80, 0x9F), any])
  else if 0xE1 ≤ b ∧ b ≤ 0xEF then some (b - 0xE0, [any, any])
  else if b = 0xF0 then some (0, [(0x90, 0xBF), any, any])
  else if 0xF1 ≤ b ∧ b ≤ 0xF3 then some (b - 0xF0, [any, any, any])
  else if b = 0xF4 then some (4, [(0x80, 0x8F), any, any])
  else none

def utf8Rest (n taken : Nat) : List (Nat × Nat) → List UInt8 → Utf8Piece × List UInt8
  | [], s => (.char (Char.ofNat n), s)
  | _ :: _, [] => (.cutOff, [])
  | (low, high) :: bounds, b :: s =>
    if low ≤ b.toNat ∧ b.toNat ≤ high then
      utf8Rest (n * 64 + (b.toNat - 0x80)) (taken + 1) bounds s
    else (.invalid taken, b :: s)

theorem length_utf8Rest (n taken : Nat) (bounds : List (Nat × Nat)) (s : List UInt8) :
    (utf8Rest n taken bounds s).2.length ≤ s.length := by
  fun_induction utf8Rest n taken bounds s with
  | case1 => exact Nat.le_refl _
  | case2 => exact Nat.le_refl _
  | case3 n taken low high bounds b s h ih => exact Nat.le_succ_of_le ih
  | case4 => exact Nat.le_refl _

def utf8Pieces : List UInt8 → List Utf8Piece
  | [] => []
  | b :: s =>
    if b < 0x80 then .char (Char.ofNat b.toNat) :: utf8Pieces s
    else match utf8Lead? b.toNat with
      | none => .invalid 1 :: utf8Pieces s
      | some (n, bounds) =>
        let p := utf8Rest n 1 bounds s
        p.1 :: utf8Pieces p.2
termination_by s => s.length
decreasing_by
  · simp
  · simp
  · have := length_utf8Rest n 1 bounds s
    simp only [List.length_cons]
    omega

inductive Utf8Fault where
  | invalid (length index : Nat)
  | cutOff (index : Nat)
  deriving DecidableEq, Repr

def Utf8Fault.message : Utf8Fault → String
  | invalid n i =>
    "invalid utf-8 sequence of " ++ n.repr ++ " bytes from index " ++ i.repr
  | cutOff i => "incomplete utf-8 byte sequence from index " ++ i.repr

def utf8Fault? (i : Nat) : List Utf8Piece → Option Utf8Fault
  | [] => none
  | .char c :: ps => utf8Fault? (i + c.utf8Size) ps
  | .invalid n :: _ => some (.invalid n i)
  | .cutOff :: _ => some (.cutOff i)

def utf8Lossy (s : List UInt8) : List Char :=
  (utf8Pieces s).map fun
    | .char c => c
    | _ => '\uFFFD'

end QueryTyping.Text
