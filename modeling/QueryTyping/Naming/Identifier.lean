import QueryTyping.Text.Alphanumeric

namespace QueryTyping.Naming

def isIdentifierChar (c : Char) : Bool :=
  c.isAlphanum || c == '_'

def stripInvalid (s : List Char) : List Char :=
  s.filter isIdentifierChar

theorem isIdentifierChar_of_mem_stripInvalid {c : Char} {s : List Char} (h : c ∈ stripInvalid s) :
    isIdentifierChar c = true :=
  (List.mem_filter.1 h).2

def lower (s : List Char) : List Char :=
  s.map Char.toLower

def upper (s : List Char) : List Char :=
  s.map Char.toUpper

def capitalize : List Char → List Char
  | [] => []
  | c :: s => c.toUpper :: lower s

def markDigit (mark : Char) : List Char → List Char
  | [] => []
  | c :: s => if c.isDigit then mark :: c :: s else c :: s

def reservedWords : List String :=
  ["break", "case", "chan", "const", "continue", "default", "defer", "else", "fallthrough", "for",
    "func", "go", "goto", "if", "import", "interface", "map", "package", "range", "return",
    "select", "struct", "switch", "type", "var"]

def fallbackName (stem name : String) : String :=
  stem ++ String.ofList (name.toList.filter fun c => Text.isAlphanumeric c || c == '_')

def candidate (base separator : String) (position : Nat) : Nat → String
  | 0 => base
  | 1 => base ++ separator ++ position.repr
  | n + 2 => base ++ separator ++ position.repr ++ "_" ++ (n + 2).repr

/-- The first candidate that is not used. Candidates differ, so one more of them than there are used
names is enough. -/
def fresh (base separator : String) (position : Nat) (used : List String) : String :=
  let n := (List.range (used.length + 1)).find? fun n =>
    !used.contains (candidate base separator position n)
  candidate base separator position (n.getD 1)

theorem fresh_of_not_mem {base separator : String} {position : Nat} {used : List String}
    (h : base ∉ used) : fresh base separator position used = base := by
  simp [fresh, List.range_succ_eq_map, candidate, h]

end QueryTyping.Naming
