import QueryTyping.Pattern.Class

namespace QueryTyping.Pattern

structure Flags where
  anyCase : Bool
  manyLines : Bool
  dotAll : Bool
  spaced : Bool
  deriving DecidableEq, Repr

namespace Flags

def initial : Flags :=
  ⟨false, false, false, false⟩

def set? (f : Flags) (on : Bool) : Char → Option Flags
  | 'i' => some { f with anyCase := on }
  | 'm' => some { f with manyLines := on }
  | 's' => some { f with dotAll := on }
  | 'x' => some { f with spaced := on }
  | 'U' | 'u' | 'R' => some f
  | _ => none

def fold (f : Flags) (s : CharSet) : CharSet :=
  if f.anyCase then .anyCase s else s

def dot (f : Flags) : CharSet :=
  if f.dotAll then .all else .compl (.single '\n')

end Flags

def readFlags (on dangling : Bool) (f : Flags) : List Char → Except Fault (Flags × List Char)
  | [] => .error ⟨.flagCut, 0, 0⟩
  | c :: s =>
    if c = ':' ∨ c = ')' then
      if dangling then .error ⟨.flagDangling, s.length + 2, s.length + 1⟩ else .ok (f, c :: s)
    else if c = '-' then readFlags false true f s
    else match f.set? on c with
      | some f => readFlags on false f s
      | none => .error ⟨.flagUnknown, s.length + 1, s.length⟩

def isNameChar (first : Bool) (c : Char) : Bool :=
  c == '_' || (if first then Text.isAlphanumeric c && !c.isDigit
    else Text.isAlphanumeric c || c == '.' || c == '[' || c == ']')

def dropName (first : Bool) : List Char → Except Fault (List Char)
  | [] => .error ⟨.nameCut, 0, 0⟩
  | '>' :: s => if first then .error ⟨.nameEmpty, s.length + 1, s.length + 1⟩ else .ok s
  | c :: s =>
    if isNameChar first c then dropName false s
    else .error ⟨.nameInvalid, s.length + 1, s.length⟩

def readGroupStart (f : Flags) (s : List Char) :
    Except Fault (Flags × Bool × List Char) :=
  let start := s.length + 1
  match s with
  | '?' :: '=' :: s | '?' :: '!' :: s | '?' :: '<' :: '=' :: s | '?' :: '<' :: '!' :: s =>
    .error ⟨.lookAround, start, s.length⟩
  | '?' :: 'P' :: '<' :: s | '?' :: '<' :: s => do
    return (f, true, ← dropName true s)
  | ['?'] => .error ⟨.groupOpen, start, start - 1⟩
  | '?' :: ')' :: _ => .error ⟨.nothingCounted, start - 1, start - 1⟩
  | '?' :: s => do
    match ← readFlags true false f s with
    | (f, ':' :: s) => return (f, true, s)
    | (f, s) => return (f, false, s.drop 1)
  | s => .ok (f, true, s)

def readCount (s : List Char) : Except Fault (Nat × List Char) :=
  let s := s.dropWhile Text.isBlank
  let digits := s.takeWhile Char.isDigit
  let rest := s.dropWhile Char.isDigit
  let n := Nat.ofDigitChars 10 digits 0
  if digits.isEmpty then .error ⟨.countEmpty, s.length, s.length⟩
  else if UInt32.size ≤ n then .error ⟨.countTooLarge, s.length, rest.length⟩
  else .ok (n, rest.dropWhile Text.isBlank)

def readBounds (s : List Char) : Except Fault (Nat × Option Nat × List Char) := do
  let start := s.length + 1
  let least := readCount s
  let rest := ((s.dropWhile Text.isBlank).dropWhile Char.isDigit).dropWhile Text.isBlank
  let (least, most, rest) ← match rest with
    | [] | [','] => throw ⟨.countOpen, start, 0⟩
    | ',' :: '\x7d' :: _ => do
      pure ((← least).1, none, rest.drop 1)
    | ',' :: s => do
      let (n, _) ← least
      let (m, s) ← readCount s
      pure (n, some m, s)
    | _ => do
      let (n, _) ← least
      pure (n, some n, rest)
  match rest with
  | '\x7d' :: s =>
    let s := if s.head? = some '?' then s.drop 1 else s
    if most.any (· < least) then throw ⟨.countOrder, start, s.length⟩
    return (least, most, s)
  | s => throw ⟨.countOpen, start, s.length⟩

def close (before : Option Pattern) (items : List (Option Pattern)) : Pattern :=
  let p := items.foldl (fun p i => i.elim p fun q => both q p) empty
  before.elim p fun q => either q p

def readRest (opened : Option Nat) (f : Flags) (before : Option Pattern)
    (items : List (Option Pattern)) : Nat → List Char → Except Fault (Pattern × List Char)
  | 0, _ => .error ⟨.groupOpen, 0, 0⟩
  | fuel + 1, s =>
    let item (p : Pattern) (s : List Char) := readRest opened f before (some p :: items) fuel s
    let repetition (least : Nat) (most : Option Nat) (here : Nat) (s : List Char) :=
      match items with
      | some p :: items => readRest opened f before (some (counted p least most) :: items) fuel s
      | _ => .error ⟨.nothingCounted, here, here⟩
    let lazily (s : List Char) : List Char := if s.head? = some '?' then s.drop 1 else s
    match skipSpace f.spaced s with
    | [] =>
      match opened with
      | some start => .error ⟨.groupOpen, start, start - 1⟩
      | none => .ok (close before items, [])
    | ')' :: s =>
      match opened with
      | some _ => .ok (close before items, s)
      | none => .error ⟨.groupStray, s.length + 1, s.length⟩
    | '|' :: s => readRest opened f (some (close before items)) [] fuel s
    | '(' :: s => do
      match ← readGroupStart f (skipSpace f.spaced s) with
      | (g, false, rest) => readRest opened g before (none :: items) fuel rest
      | (g, true, rest) =>
        let (p, rest) ← readRest (some (s.length + 1)) g none [] fuel rest
        item p rest
    | '[' :: s => do
      let (set, s) ← readClass f.spaced f.anyCase s
      item (one set) s
    | '?' :: s => repetition 0 (some 1) (s.length + 1) (lazily s)
    | '*' :: s => repetition 0 none (s.length + 1) (lazily s)
    | '+' :: s => repetition 1 none (s.length + 1) (lazily s)
    | '\x7b' :: s =>
      match items with
      | some _ :: _ => do
        let (least, most, rest) ← readBounds s
        repetition least most 0 rest
      | _ => .error ⟨.nothingCounted, s.length + 1, s.length + 1⟩
    | '\\' :: s => do
      match ← readEscape s with
      | (.literal c, s) => item (one (f.fold (.single c))) s
      | (.set set, s) => item (one set) s
      | (.place c, s) => item (place c) s
    | '.' :: s => item (one f.dot) s
    | '^' :: s => item (place (if f.manyLines then .atLineStart else .atStart)) s
    | '$' :: s => item (place (if f.manyLines then .atLineEnd else .atEnd)) s
    | c :: s => item (one (f.fold (.single c))) s

def read (written : List Char) : Except Fault Pattern :=
  (readRest none .initial none [] (written.length + 1) written).map Prod.fst

end QueryTyping.Pattern
