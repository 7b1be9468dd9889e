import QueryTyping.Json.Token

namespace QueryTyping.Json

inductive ListEnd where
  | closed
  | cutOff
  | cutOffAfterComma
  | closedAfterComma
  | noComma
  deriving DecidableEq, Repr

namespace ListEnd

def fault? : ListEnd → Option Fault
  | closed => none
  | cutOff => some .endInList
  | cutOffAfterComma => some .endInValue
  | closedAfterComma => some .trailingComma
  | noComma => some .noListComma

def skippingFault? : ListEnd → Option Fault
  | closedAfterComma => some .noValue
  | e => e.fault?

def closingFault? : ListEnd → Option Fault
  | closed => none
  | cutOff => some .endInList
  | closedAfterComma => some .trailingComma
  | cutOffAfterComma | noComma => some .trailingCharacters

end ListEnd

abbrev Key := Except Fault String

inductive ObjectEnd where
  | closed
  | cutOff
  | cutOffAfterComma
  | closedAfterComma
  | noComma
  | notKey
  | brokenKey (wanted skipped : Fault)
  | noColon (key : Key) (fault : Fault)

namespace ObjectEnd

def fault? : ObjectEnd → Option Fault
  | closed => none
  | cutOff => some .endInObject
  | cutOffAfterComma => some .endInValue
  | closedAfterComma => some .trailingComma
  | noComma => some .noObjectComma
  | notKey => some .keyNotString
  | brokenKey f _ => some f
  | noColon (.error f) _ => some f
  | noColon (.ok _) f => some f

def skippingFault? : ObjectEnd → Option Fault
  | cutOffAfterComma => some .endInObject
  | closedAfterComma => some .keyNotString
  | brokenKey _ f => some f
  | noColon _ f => some f
  | e => e.fault?

end ObjectEnd

inductive Opening where
  | nothing
  | quote
  | other
  deriving DecidableEq, Repr

inductive Document where
  | null
  | bool (b : Bool)
  | number (value : Except Fault Number)
  | string (text : Except Fault String)
  | array (items : List Document) (stop : ListEnd)
  | object (entries : List (Key × Document)) (stop : ObjectEnd)
  | broken (opening : Opening) (wanted skipped : Fault)

inductive Frame where
  | item (before : List Document)
  | entry (before : List (Key × Document)) (key : Key)

inductive Reader where
  | start
  | items (outer : List Frame)
  | item (outer : List Frame) (before : List Document)
  | afterItem (outer : List Frame) (items : List Document)
  | entries (outer : List Frame)
  | key (outer : List Frame) (before : List (Key × Document))
  | colon (outer : List Frame) (before : List (Key × Document)) (key : Key)
  | value (outer : List Frame) (before : List (Key × Document)) (key : Key)
  | afterEntry (outer : List Frame) (entries : List (Key × Document))
  | done (d : Document) (trailing : Bool)

namespace Reader

def put (d : Document) : List Frame → Reader
  | [] => done d false
  | .item before :: outer => afterItem outer (d :: before)
  | .entry before k :: outer => afterEntry outer ((k, d) :: before)

def giveUp (d : Document) : List Frame → Document
  | [] => d
  | .item before :: outer => giveUp (.array (d :: before).reverse .cutOff) outer
  | .entry before k :: outer => giveUp (.object ((k, d) :: before).reverse .cutOff) outer

def fail (d : Document) (outer : List Frame) : Reader :=
  done (giveUp d outer) false

def begin (outer : List Frame) : Token → Reader
  | .null => put .null outer
  | .bool b => put (.bool b) outer
  | .number n => put (.number n) outer
  | .string s => put (.string s) outer
  | .openList => items outer
  | .openObject => entries outer
  | .broken w s => fail (.broken .other w s) outer
  | .brokenString w s => fail (.broken .quote w s) outer
  | .closeList | .closeObject | .comma | .colon | .stray =>
    fail (.broken .other .noValue .noValue) outer

def beginKey (outer : List Frame) (before : List (Key × Document)) : Token → Reader
  | .string k => colon outer before k
  | .brokenString w s => fail (.object before.reverse (.brokenKey w s)) outer
  | _ => fail (.object before.reverse .notKey) outer

def step : Reader → Token → Reader
  | start, t => begin [] t
  | items outer, .closeList => put (.array [] .closed) outer
  | items outer, t => begin (.item [] :: outer) t
  | item outer before, .closeList => fail (.array before.reverse .closedAfterComma) outer
  | item outer before, t => begin (.item before :: outer) t
  | afterItem outer ds, .closeList => put (.array ds.reverse .closed) outer
  | afterItem outer ds, .comma => item outer ds
  | afterItem outer ds, _ => fail (.array ds.reverse .noComma) outer
  | entries outer, .closeObject => put (.object [] .closed) outer
  | entries outer, t => beginKey outer [] t
  | key outer before, .closeObject => fail (.object before.reverse .closedAfterComma) outer
  | key outer before, t => beginKey outer before t
  | colon outer before k, .colon => value outer before k
  | colon outer before k, _ => fail (.object before.reverse (.noColon k .noColon)) outer
  | value outer before k, t => begin (.entry before k :: outer) t
  | afterEntry outer es, .closeObject => put (.object es.reverse .closed) outer
  | afterEntry outer es, .comma => key outer es
  | afterEntry outer es, _ => fail (.object es.reverse .noComma) outer
  | done d _, _ => done d true

def finish : Reader → Document × Bool
  | start => (.broken .nothing .endInValue .endInValue, false)
  | items outer => (giveUp (.array [] .cutOff) outer, false)
  | item outer before => (giveUp (.array before.reverse .cutOffAfterComma) outer, false)
  | afterItem outer ds => (giveUp (.array ds.reverse .cutOff) outer, false)
  | entries outer => (giveUp (.object [] .cutOff) outer, false)
  | key outer before => (giveUp (.object before.reverse .cutOffAfterComma) outer, false)
  | colon outer before k =>
    (giveUp (.object before.reverse (.noColon k .endInObject)) outer, false)
  | value outer before k =>
    (giveUp (.broken .nothing .endInValue .endInValue) (.entry before k :: outer), false)
  | afterEntry outer es => (giveUp (.object es.reverse .cutOff) outer, false)
  | done d trailing => (d, trailing)

def run (r : Reader) : List Char → Reader
  | [] => r
  | c :: s =>
    if isSpace c then run r s
    else
      let p := scanToken c s
      run (r.step p.1) p.2
termination_by s => s.length
decreasing_by
  · simp
  · have := length_scanToken c s
    simp only [List.length_cons]; omega

end Reader

def Document.read (s : List Char) : Document × Bool :=
  (Reader.run .start s).finish

end QueryTyping.Json
