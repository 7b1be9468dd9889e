import QueryTyping.Pattern.Escape

namespace QueryTyping.Pattern

def namedSet? (name : String) : Option CharSet :=
  let ranges (l : List (Char × Char)) : CharSet :=
    l.foldl (fun s r => s.union (.range r.1 r.2)) .nothing
  match name with
  | "alnum" => some (ranges [('0', '9'), ('A', 'Z'), ('a', 'z')])
  | "alpha" => some (ranges [('A', 'Z'), ('a', 'z')])
  | "ascii" => some (ranges [('\x00', '\x7F')])
  | "blank" => some (ranges [('\t', '\t'), (' ', ' ')])
  | "cntrl" => some (ranges [('\x00', '\x1F'), ('\x7F', '\x7F')])
  | "digit" => some (ranges [('0', '9')])
  | "graph" => some (ranges [('!', '~')])
  | "lower" => some (ranges [('a', 'z')])
  | "print" => some (ranges [(' ', '~')])
  | "punct" => some (ranges [('!', '/'), (':', '@'), ('[', '\x60'), ('\x7b', '~')])
  | "space" => some (ranges [('\t', '\r'), (' ', ' ')])
  | "upper" => some (ranges [('A', 'Z')])
  | "word" => some (ranges [('0', '9'), ('A', 'Z'), ('_', '_'), ('a', 'z')])
  | "xdigit" => some (ranges [('0', '9'), ('A', 'F'), ('a', 'f')])
  | _ => none

def readNamedSet? (s : List Char) : Option (CharSet × List Char) := do
  let (negated, s) ← match s with
    | ':' :: '^' :: s => some (true, s)
    | ':' :: s => some (false, s)
    | _ => none
  match s.dropWhile (· ≠ ':') with
  | ':' :: ']' :: rest =>
    let set ← namedSet? (String.ofList (s.takeWhile (· ≠ ':')))
    return (if negated then .compl set else set, rest)
  | _ => none

structure ClassItem where
  meaning : Escape
  start : Nat
  stop : Nat

namespace ClassItem

def toSet (i : ClassItem) : Except Fault CharSet :=
  match i.meaning with
  | .literal c => .ok (.single c)
  | .set s => .ok s
  | .place _ => .error ⟨.classEscape, i.start, i.stop⟩

def toChar (i : ClassItem) : Except Fault Char :=
  match i.meaning with
  | .literal c => .ok c
  | _ => .error ⟨.classBound, i.start, i.stop⟩

end ClassItem

def readClassItem (c : Char) (s : List Char) : Except Fault (ClassItem × List Char) := do
  let start := s.length + 1
  if c = '\\' then
    let (e, rest) ← readEscape s
    return (⟨e, start, rest.length⟩, rest)
  else return (⟨.literal c, start, s.length⟩, s)

def readClassRange (opened : Nat × Nat) (c : Char) (s : List Char) :
    Except Fault (CharSet × List Char) := do
  let unclosed : Fault := ⟨.classOpen, opened.1, opened.2⟩
  let (first, s) ← readClassItem c s
  match s with
  | [] => throw unclosed
  | '-' :: ']' :: _ | '-' :: '-' :: _ => return (← first.toSet, s)
  | ['-'] => throw unclosed
  | '-' :: d :: s =>
    let (last, s) ← readClassItem d s
    let low ← first.toChar
    let high ← last.toChar
    if high < low then throw ⟨.classRange, first.start, last.stop⟩
    return (.range low high, s)
  | s => return (← first.toSet, s)

def readClassStart (s : List Char) :
    Except Fault (Bool × CharSet × (Nat × Nat) × List Char) := do
  let start := s.length + 1
  if s.isEmpty then throw ⟨.classOpen, start, 0⟩
  let (negated, s) := match s with
    | '^' :: s => (true, s)
    | s => (false, s)
  if s.isEmpty then throw ⟨.classOpen, start, 0⟩
  match s, s.dropWhile (· = '-') with
  | _, [] => throw ⟨.classOpen, start, start⟩
  | ']' :: _, [_] => throw ⟨.classOpen, start, 0⟩
  | ']' :: s, _ => return (negated, .single ']', (start, s.length), s)
  | '-' :: _, s => return (negated, .single '-', (start, s.length), s)
  | s, _ => return (negated, .nothing, (start, s.length), s)

def readClassItems (spaced anyCase : Bool) (opened : Nat × Nat) (whole : CharSet → CharSet)
    (items : CharSet) : Nat → List Char → Except Fault (CharSet × List Char)
  | 0, _ => .error ⟨.classOpen, opened.1, opened.2⟩
  | fuel + 1, s =>
    let fold (s : CharSet) : CharSet := if anyCase then .anyCase s else s
    let item (set : CharSet) (s : List Char) :=
      readClassItems spaced anyCase opened whole (items.union set) fuel s
    let operator (whole : CharSet → CharSet) (s : List Char) :=
      readClassItems spaced anyCase opened whole .nothing fuel s
    match skipSpace spaced s with
    | [] => .error ⟨.classOpen, opened.1, opened.2⟩
    | ']' :: s => .ok (whole items, s)
    | '&' :: '&' :: s => operator (fun r => (whole items).inter r) s
    | '-' :: '-' :: s => operator (fun r => (whole items).diff r) s
    | '~' :: '~' :: s =>
      operator (fun r => ((whole items).diff r).union (r.diff (whole items))) s
    | '[' :: s =>
      match readNamedSet? s with
      | some (set, s) => item (fold set) s
      | none => do
        let (negated, first, here, s) ← readClassStart s
        let (set, s) ← readClassItems spaced anyCase here id (fold first) fuel s
        item (if negated then .compl set else set) s
    | c :: s => do
      let (set, s) ← readClassRange opened c s
      item (fold set) s

def readClass (spaced anyCase : Bool) (s : List Char) : Except Fault (CharSet × List Char) := do
  let (negated, first, here, s) ← readClassStart s
  let first := if anyCase then .anyCase first else first
  let (set, s) ← readClassItems spaced anyCase here id first (s.length + 1) s
  return (if negated then .compl set else set, s)

end QueryTyping.Pattern
