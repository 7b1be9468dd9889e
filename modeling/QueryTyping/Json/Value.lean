namespace QueryTyping

inductive Json where
  | null
  | bool (b : Bool)
  | number (n : Nat)
  | string (s : String)
  | array (items : List Json)
  | object (entries : List (String × Json))
  deriving Repr

namespace Json

def strings (l : List String) : Json :=
  array (l.map string)

inductive Layout where
  | compact
  | indented
  deriving DecidableEq, Repr

namespace Layout

def line : Layout → Nat → List Char
  | compact, _ => []
  | indented, depth => '\n' :: List.replicate (2 * depth) ' '

def colon : Layout → List Char
  | compact => [':']
  | indented => [':', ' ']

end Layout

def hexDigits (n : Nat) : List Char :=
  [Nat.digitChar (n / 16), Nat.digitChar (n % 16)]

def escape (c : Char) : List Char :=
  if c = '"' then ['\\', '"']
  else if c = '\\' then ['\\', '\\']
  else if c = '\x08' then ['\\', 'b']
  else if c = '\x0c' then ['\\', 'f']
  else if c = '\n' then ['\\', 'n']
  else if c = '\r' then ['\\', 'r']
  else if c = '\t' then ['\\', 't']
  else if c.toNat < 0x20 then ['\\', 'u', '0', '0'] ++ hexDigits c.toNat
  else [c]

def quote (s : String) : List Char :=
  '"' :: s.toList.flatMap escape ++ ['"']

mutual

def write (l : Layout) (depth : Nat) : Json → List Char
  | null => ['n', 'u', 'l', 'l']
  | bool true => ['t', 'r', 'u', 'e']
  | bool false => ['f', 'a', 'l', 's', 'e']
  | number n => Nat.toDigits 10 n
  | string s => quote s
  | array [] => ['[', ']']
  | array (v :: vs) =>
    '[' :: l.line (depth + 1) ++ v.write l (depth + 1) ++ writeItems l depth vs
  | object [] => ['{', '}']
  | object ((k, v) :: es) =>
    '{' :: l.line (depth + 1) ++ quote k ++ l.colon ++ v.write l (depth + 1) ++
      writeEntries l depth es

def writeItems (l : Layout) (depth : Nat) : List Json → List Char
  | [] => l.line depth ++ [']']
  | v :: vs => ',' :: l.line (depth + 1) ++ v.write l (depth + 1) ++ writeItems l depth vs

def writeEntries (l : Layout) (depth : Nat) : List (String × Json) → List Char
  | [] => l.line depth ++ ['}']
  | (k, v) :: es =>
    ',' :: l.line (depth + 1) ++ quote k ++ l.colon ++ v.write l (depth + 1) ++
      writeEntries l depth es

end

def compact (v : Json) : String :=
  String.ofList (v.write .compact 0)

def pretty (v : Json) : String :=
  String.ofList (v.write .indented 0)

end Json

end QueryTyping
