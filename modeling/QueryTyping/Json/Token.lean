import QueryTyping.Json.Number
import QueryTyping.Text.Hex

namespace QueryTyping.Json

open Text (hexValue)

inductive Token where
  | openList
  | closeList
  | openObject
  | closeObject
  | comma
  | colon
  | null
  | bool (b : Bool)
  | number (value : Except Fault Number)
  | string (text : Except Fault String)
  | broken (wanted skipped : Fault)
  | brokenString (wanted skipped : Fault)
  | stray

/-- What is read at the start of a text: a value for those who want it and the rest of the text, or
the faults that stop one who wants the value and one who passes over it. -/
inductive Scan (α : Type) where
  | done (value : Except Fault α) (rest : List Char)
  | stop (wanted skipped : Fault)

namespace Scan

def map (f : α → β) : Scan α → Scan β
  | done v rest => done (v.map f) rest
  | stop w s => stop w s

def soften (f : Fault) : Scan α → Scan α
  | done _ rest => done (.error f) rest
  | stop _ s => stop f s

def rest : Scan α → List Char
  | done _ r => r
  | stop _ _ => []

@[simp] theorem rest_done (v : Except Fault α) (r : List Char) : (done v r).rest = r := rfl

@[simp] theorem rest_stop (w s : Fault) : (stop w s : Scan α).rest = [] := rfl

@[simp] theorem rest_map (f : α → β) (s : Scan α) : (s.map f).rest = s.rest := by
  cases s <;> rfl

@[simp] theorem rest_soften (f : Fault) (s : Scan α) : (s.soften f).rest = s.rest := by
  cases s <;> rfl

end Scan

def isSpace (c : Char) : Bool :=
  c == ' ' || c == '\n' || c == '\t' || c == '\r'

def hexQuad (a b c d : Char) : Option Nat := do
  return (((← hexValue a) * 16 + (← hexValue b)) * 16 + (← hexValue c)) * 16 + (← hexValue d)

def isLeading (n : Nat) : Bool :=
  0xD800 ≤ n && n ≤ 0xDBFF

def isTrailing (n : Nat) : Bool :=
  0xDC00 ≤ n && n ≤ 0xDFFF

def unpair (leading trailing : Nat) : Char :=
  Char.ofNat (0x10000 + (leading - 0xD800) * 0x400 + (trailing - 0xDC00))

def hexFault (s : List Char) : Fault :=
  if (String.ofList s).utf8ByteSize < 4 then .endInString else .badEscape

def plainEscape? : Char → Option Char
  | '"' => some '"'
  | '\\' => some '\\'
  | '/' => some '/'
  | 'b' => some '\x08'
  | 'f' => some '\x0c'
  | 'n' => some '\n'
  | 'r' => some '\r'
  | 't' => some '\t'
  | _ => none

def unpaired (lead : Option Nat) (s : Scan α) : Scan α :=
  if lead.isSome then s.soften .endOfEscape else s

def scanString (lead : Option Nat) : List Char → Scan (List Char)
  | [] => .stop .endInString .endInString
  | '"' :: s => unpaired lead (.done (.ok []) s)
  | '\\' :: s =>
    match s with
    | [] => .stop .endInString .endInString
    | 'u' :: s =>
      match s with
      | a :: b :: c :: d :: s =>
        match hexQuad a b c d, lead with
        | none, _ => .stop .badEscape .badEscape
        | some n, some l =>
          if isTrailing n then (scanString none s).map (unpair l n :: ·)
          else (scanString none s).soften .loneSurrogate
        | some n, none =>
          if isTrailing n then (scanString none s).soften .loneSurrogate
          else if isLeading n then scanString (some n) s
          else (scanString none s).map (Char.ofNat n :: ·)
      | s => .stop (hexFault s) (hexFault s)
    | c :: s =>
      match plainEscape? c with
      | some c => unpaired lead ((scanString none s).map (c :: ·))
      | none => unpaired lead (.stop .badEscape .badEscape)
  | c :: s =>
    if c.toNat < 0x20 then unpaired lead (.stop .controlCharacter .controlCharacter)
    else unpaired lead ((scanString none s).map (c :: ·))
termination_by structural s => s

@[simp] theorem rest_unpaired (lead : Option Nat) (s : Scan α) :
    (unpaired lead s).rest = s.rest := by
  cases lead <;> simp [unpaired]

theorem length_rest_scanString (lead : Option Nat) (s : List Char) :
    (scanString lead s).rest.length ≤ s.length := by
  fun_induction scanString lead s <;> simp_all <;> omega

theorem length_dropWhile_le (p : Char → Bool) (s : List Char) :
    (s.dropWhile p).length ≤ s.length :=
  (List.dropWhile_suffix p).length_le

def scanRun (s : List Char) : Scan (List Char) :=
  let ds := s.takeWhile Char.isDigit
  if ds.isEmpty then .stop (if s.isEmpty then .endInValue else .badNumber) .badNumber
  else .done (.ok ds) (s.dropWhile Char.isDigit)

theorem length_rest_scanRun (s : List Char) : (scanRun s).rest.length ≤ s.length := by
  have := length_dropWhile_le Char.isDigit s
  simp only [scanRun]
  split <;> simp [this]

def scanExponent : List Char → Scan (Option (Bool × List Char))
  | c :: s =>
    if c = 'e' ∨ c = 'E' then
      match s with
      | '+' :: s => (scanRun s).map fun ds => some (false, ds)
      | '-' :: s => (scanRun s).map fun ds => some (true, ds)
      | s => (scanRun s).map fun ds => some (false, ds)
    else .done (.ok none) (c :: s)
  | [] => .done (.ok none) []

theorem length_rest_scanExponent (s : List Char) : (scanExponent s).rest.length ≤ s.length := by
  have h := length_rest_scanRun
  fun_cases scanExponent s <;> simp <;> grind

def scanParts (negative : Bool) (whole : List Char) : List Char → Scan Number.Parts
  | '.' :: s =>
    let ds := s.takeWhile Char.isDigit
    if ds.isEmpty then .stop (if s.isEmpty then .endInValue else .badNumber) .badNumber
    else (scanExponent (s.dropWhile Char.isDigit)).map (⟨negative, whole, ds, ·⟩)
  | s => (scanExponent s).map (⟨negative, whole, [], ·⟩)

theorem length_rest_scanParts (negative : Bool) (whole s : List Char) :
    (scanParts negative whole s).rest.length ≤ s.length := by
  have h := length_dropWhile_le Char.isDigit
  have e := length_rest_scanExponent
  fun_cases scanParts negative whole s <;> simp <;> grind

def Scan.number : Scan Number.Parts → Scan Number
  | done v r => done (v.bind Number.Parts.value) r
  | stop w s => stop w s

@[simp] theorem Scan.rest_number (s : Scan Number.Parts) : s.number.rest = s.rest := by
  cases s <;> rfl

def scanDigits (negative : Bool) : List Char → Scan Number
  | '0' :: s =>
    if s.head?.any Char.isDigit then .stop .badNumber .badNumber
    else (scanParts negative ['0'] s).number
  | c :: s =>
    if c.isDigit then
      (scanParts negative (c :: s.takeWhile Char.isDigit) (s.dropWhile Char.isDigit)).number
    else .stop .badNumber .badNumber
  | [] => .stop .endInValue .badNumber

theorem length_rest_scanDigits (negative : Bool) (s : List Char) :
    (scanDigits negative s).rest.length ≤ s.length - 1 := by
  have h := length_dropWhile_le Char.isDigit
  have e := length_rest_scanParts negative
  fun_cases scanDigits negative s <;> simp <;> grind

def scanWord (token : Token) : List Char → List Char → Token × List Char
  | [], s => (token, s)
  | _ :: _, [] => (.broken .endInValue .endInValue, [])
  | w :: ws, c :: s =>
    if w = c then scanWord token ws s else (.broken .noIdentifier .noIdentifier, [])

def scanToken (c : Char) (s : List Char) : Token × List Char :=
  if c.isDigit then
    match scanDigits false (c :: s) with
    | .done v r => (.number v, r)
    | .stop w s => (.broken w s, [])
  else
    match c with
    | '[' => (.openList, s)
    | ']' => (.closeList, s)
    | '{' => (.openObject, s)
    | '}' => (.closeObject, s)
    | ',' => (.comma, s)
    | ':' => (.colon, s)
    | 'n' => scanWord .null ['u', 'l', 'l'] s
    | 't' => scanWord (.bool true) ['r', 'u', 'e'] s
    | 'f' => scanWord (.bool false) ['a', 'l', 's', 'e'] s
    | '-' =>
      match scanDigits true s with
      | .done v r => (.number v, r)
      | .stop w s => (.broken w s, [])
    | '"' =>
      match scanString none s with
      | .done v r => (.string (v.map String.ofList), r)
      | .stop w s => (.brokenString w s, [])
    | _ => (.stray, [])

theorem length_scanWord (t : Token) (w s : List Char) : (scanWord t w s).2.length ≤ s.length := by
  fun_induction scanWord t w s with
  | case1 => exact Nat.le_refl _
  | case2 => exact Nat.le_refl _
  | case3 ws w s ih => exact Nat.le_succ_of_le ih
  | case4 => exact Nat.zero_le _

theorem length_scanToken (c : Char) (s : List Char) : (scanToken c s).2.length ≤ s.length := by
  fun_cases scanToken c s with
  | case1 _ _ v r h =>
    have hrest : r.length ≤ s.length := by simpa [h] using length_rest_scanDigits false (c :: s)
    exact hrest
  | case12 v r h =>
    have hrest : r.length ≤ s.length - 1 := by simpa [h] using length_rest_scanDigits true s
    exact Nat.le_trans hrest (Nat.sub_le _ _)
  | case14 v r h =>
    have hrest : r.length ≤ s.length := by simpa [h] using length_rest_scanString none s
    exact hrest
  | case9 | case10 | case11 => exact length_scanWord _ _ s
  | case3 | case4 | case5 | case6 | case7 | case8 => exact Nat.le_refl _
  | case2 | case13 | case15 | case16 => exact Nat.zero_le _

end QueryTyping.Json
