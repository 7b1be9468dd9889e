import QueryTyping.Pattern
import QueryTyping.Pattern.Fault
import QueryTyping.Text.Hex

namespace QueryTyping.Pattern

inductive Escape where
  | literal (c : Char)
  | set (s : CharSet)
  | place (c : Condition)
  deriving DecidableEq, Repr

def dropSpace (inComment : Bool) : List Char → List Char
  | [] => []
  | c :: s =>
    if inComment then dropSpace (c ≠ '\n') s
    else if c = '#' then dropSpace true s
    else if Text.isBlank c then dropSpace false s
    else c :: s

def skipSpace (spaced : Bool) (s : List Char) : List Char :=
  if spaced then dropSpace false s else s

def ofScalar? (n : Nat) : Option Char :=
  if n.isValidChar then some (Char.ofNat n) else none

def readHexDigits (start n : Nat) : Nat → List Char → Except Fault (Char × List Char)
  | 0, s =>
    match ofScalar? n with
    | some c => .ok (c, s)
    | none => .error ⟨.hexInvalid, start, s.length⟩
  | _ + 1, [] => .error ⟨.escapeCut, 0, 0⟩
  | k + 1, c :: s =>
    match Text.hexValue c with
    | some d => readHexDigits start (n * 16 + d) k s
    | none => .error ⟨.hexDigit, s.length + 1, s.length⟩

def readHexBrace (start : Nat) (n : Option Nat) : List Char → Except Fault (Char × List Char)
  | [] => .error ⟨.escapeCut, start, 0⟩
  | c :: s =>
    if c = '\x7d' then
      match n with
      | none => .error ⟨.hexEmpty, start, s.length⟩
      | some n =>
        match ofScalar? n with
        | some c => .ok (c, s)
        | none => .error ⟨.hexInvalid, start - 1, s.length + 1⟩
    else
      match Text.hexValue c with
      | some d => readHexBrace start (some (n.getD 0 * 16 + d)) s
      | none => .error ⟨.hexDigit, s.length + 1, s.length⟩

def readHex (digits : Nat) : List Char → Except Fault (Char × List Char)
  | [] => .error ⟨.escapeCut, 0, 0⟩
  | c :: s =>
    if c = '\x7b' then readHexBrace (s.length + 1) none s
    else readHexDigits (s.length + 1) 0 digits (c :: s)

def letterEscape? : Char → Option Escape
  | 'a' => some (.literal '\x07')
  | 'f' => some (.literal '\x0C')
  | 'n' => some (.literal '\n')
  | 'r' => some (.literal '\r')
  | 't' => some (.literal '\t')
  | 'v' => some (.literal '\x0B')
  | 'd' => some (.set .digit)
  | 's' => some (.set .blank)
  | 'w' => some (.set .word)
  | 'D' => some (.set (.compl .digit))
  | 'S' => some (.set (.compl .blank))
  | 'W' => some (.set (.compl .word))
  | 'A' => some (.place .atStart)
  | 'z' => some (.place .atEnd)
  | 'b' => some (.place .atWordEdge)
  | 'B' => some (.place .offWordEdge)
  | '<' => some (.place .atWordStart)
  | '>' => some (.place .atWordEnd)
  | _ => none

def readEscape (s : List Char) : Except Fault (Escape × List Char) :=
  let start := s.length + 1
  match s with
  | [] => .error ⟨.escapeCut, start, 0⟩
  | 'x' :: s => (readHex 2 s).map fun p => (.literal p.1, p.2)
  | 'u' :: s => (readHex 4 s).map fun p => (.literal p.1, p.2)
  | 'U' :: s => (readHex 8 s).map fun p => (.literal p.1, p.2)
  | c :: s =>
    if c.isDigit then .error ⟨.backReference, start, s.length⟩
    else match letterEscape? c with
      | some e => .ok (e, s)
      | none =>
        if c.toNat < 0x80 && !c.isAlpha then .ok (.literal c, s)
        else .error ⟨.escapeUnknown, start, s.length⟩

end QueryTyping.Pattern
