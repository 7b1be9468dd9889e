namespace QueryTyping.Pattern

inductive Cause where
  | classEscape
  | classRange
  | classBound
  | classOpen
  | hexEmpty
  | hexInvalid
  | hexDigit
  | escapeCut
  | escapeUnknown
  | flagDangling
  | flagCut
  | flagUnknown
  | nameEmpty
  | nameInvalid
  | nameCut
  | groupOpen
  | groupStray
  | countOrder
  | countEmpty
  | countTooLarge
  | countOpen
  | nothingCounted
  | backReference
  | lookAround
  deriving DecidableEq, Repr

def Cause.message : Cause → String
  | classEscape => "invalid escape sequence found in character class"
  | classRange => "invalid character class range, the start must be <= the end"
  | classBound => "invalid range boundary, must be a literal"
  | classOpen => "unclosed character class"
  | hexEmpty => "hexadecimal literal empty"
  | hexInvalid => "hexadecimal literal is not a Unicode scalar value"
  | hexDigit => "invalid hexadecimal digit"
  | escapeCut => "incomplete escape sequence, reached end of pattern prematurely"
  | escapeUnknown => "unrecognized escape sequence"
  | flagDangling => "dangling flag negation operator"
  | flagCut => "expected flag but got end of regex"
  | flagUnknown => "unrecognized flag"
  | nameEmpty => "empty capture group name"
  | nameInvalid => "invalid capture group character"
  | nameCut => "unclosed capture group name"
  | groupOpen => "unclosed group"
  | groupStray => "unopened group"
  | countOrder => "invalid repetition count range, the start must be <= the end"
  | countEmpty => "repetition quantifier expects a valid decimal"
  | countTooLarge => "decimal literal invalid"
  | countOpen => "unclosed counted repetition"
  | nothingCounted => "repetition operator missing expression"
  | backReference => "backreferences are not supported"
  | lookAround => "look-around, including look-ahead and look-behind, is not supported"

structure Fault where
  cause : Cause
  /-- How many characters are left where the place at fault starts. -/
  start : Nat
  stop : Nat
  deriving DecidableEq, Repr

def Fault.message (f : Fault) (written : List Char) : String :=
  let before := written.length - f.start
  let marks := List.replicate before ' ' ++ List.replicate (max 1 (f.start - f.stop)) '^'
  "regex parse error:\n    " ++ String.ofList written ++ "\n    " ++ String.ofList marks ++
    "\nerror: " ++ f.cause.message

end QueryTyping.Pattern
