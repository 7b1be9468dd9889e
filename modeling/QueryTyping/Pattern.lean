import QueryTyping.Text.Alphanumeric
import QueryTyping.Text.Blank

namespace QueryTyping

inductive CharSet where
  | nothing
  | range (low high : Char)
  | digit
  | blank
  | word
  | union (a b : CharSet)
  | inter (a b : CharSet)
  | compl (a : CharSet)
  | anyCase (a : CharSet)
  deriving DecidableEq, Repr

namespace CharSet

def single (c : Char) : CharSet :=
  range c c

def all : CharSet :=
  compl nothing

def diff (a b : CharSet) : CharSet :=
  inter a (compl b)

def swapCase (c : Char) : Char :=
  if c.isUpper then c.toLower else c.toUpper

def isWordChar (c : Char) : Bool :=
  Text.isAlphanumeric c || c == '_'

def contains : CharSet → Char → Bool
  | nothing, _ => false
  | range low high, c => low ≤ c && c ≤ high
  | digit, c => c.isDigit
  | blank, c => Text.isBlank c
  | word, c => isWordChar c
  | union a b, c => a.contains c || b.contains c
  | inter a b, c => a.contains c && b.contains c
  | compl a, c => !a.contains c
  | anyCase a, c => a.contains c || a.contains (swapCase c)

end CharSet

namespace Pattern

inductive Condition where
  | atStart
  | atEnd
  | atLineStart
  | atLineEnd
  | atWordStart
  | atWordEnd
  | atWordEdge
  | offWordEdge
  deriving DecidableEq, Repr

def Condition.holds (before after : Option Char) : Condition → Bool
  | atStart => before.isNone
  | atEnd => after.isNone
  | atLineStart => before.all (· = '\n')
  | atLineEnd => after.all (· = '\n')
  | atWordStart => !before.any CharSet.isWordChar && after.any CharSet.isWordChar
  | atWordEnd => before.any CharSet.isWordChar && !after.any CharSet.isWordChar
  | atWordEdge => before.any CharSet.isWordChar != after.any CharSet.isWordChar
  | offWordEdge => before.any CharSet.isWordChar == after.any CharSet.isWordChar

end Pattern

inductive Pattern where
  | empty
  | one (s : CharSet)
  | place (c : Pattern.Condition)
  | both (a b : Pattern)
  | either (a b : Pattern)
  | counted (a : Pattern) (least : Nat) (most : Option Nat)
  deriving DecidableEq, Repr

namespace Pattern

/-- The places of a text, before each character and at the end; those with `true` are meant. -/
abbrev Marks := List Bool

def spread (f : Marks → Marks) : Nat → Marks → Marks
  | 0, m => m
  | n + 1, m =>
    let next := m.zipWith or (f m)
    if next = m then m else spread f n next

/-- The places at which a part of the text can end that matches the pattern and starts at one of the
given places. A place is passed at most once, so that more steps than places lead nowhere else. -/
def reach (text : List Char) : Pattern → Marks → Marks
  | empty, m => m
  | one s, m => false :: m.zipWith (fun b c => b && s.contains c) text
  | place c, m =>
    let sides := (none :: text.map some).zip (text.map some ++ [none])
    m.zipWith (fun b s => b && c.holds s.1 s.2) sides
  | both a b, m => reach text b (reach text a m)
  | either a b, m => (reach text a m).zipWith or (reach text b m)
  | counted a least most, m =>
    let start := (List.range (min least m.length)).foldl (fun m _ => reach text a m) m
    spread (reach text a) (most.elim m.length (· - least)) start

def occursIn (p : Pattern) (text : List Char) : Bool :=
  (reach text p (List.replicate (text.length + 1) true)).any id

end Pattern

end QueryTyping
