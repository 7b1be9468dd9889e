namespace QueryTyping.Json

inductive Fault where
  | endInValue
  | endInList
  | endInObject
  | endInString
  | noValue
  | noIdentifier
  | noColon
  | noListComma
  | noObjectComma
  | trailingComma
  | keyNotString
  | badNumber
  | numberOutOfRange
  | badEscape
  | controlCharacter
  | endOfEscape
  | loneSurrogate
  | trailingCharacters
  | tooDeep
  deriving DecidableEq, Repr

def Fault.message : Fault → String
  | endInValue => "EOF while parsing a value"
  | endInList => "EOF while parsing a list"
  | endInObject => "EOF while parsing an object"
  | endInString => "EOF while parsing a string"
  | noValue => "expected value"
  | noIdentifier => "expected ident"
  | noColon => "expected `:`"
  | noListComma => "expected `,` or `]`"
  | noObjectComma => "expected `,` or `\x7d`"
  | trailingComma => "trailing comma"
  | keyNotString => "key must be a string"
  | badNumber => "invalid number"
  | numberOutOfRange => "number out of range"
  | badEscape => "invalid escape"
  | controlCharacter => "control character (\\u0000-\\u001F) found while parsing a string"
  | endOfEscape => "unexpected end of hex escape"
  | loneSurrogate => "lone leading surrogate in hex escape"
  | trailingCharacters => "trailing characters"
  | tooDeep => "recursion limit exceeded"

end QueryTyping.Json
