import QueryTyping.Naming.Identifier
import QueryTyping.Naming.Word
import QueryTyping.Table
import QueryTyping.Text.Blank
import QueryTyping.Text.Cut

namespace QueryTyping.Naming

def acronymOf? (entry : String) : Option (String × String) :=
  let (word, rendering) :=
    match Text.cutFirst '=' entry.toList with
    | some (w, r) => (Text.trim w, Text.trim r)
    | none => (Text.trim entry.toList, upper (Text.trim entry.toList))
  if word.isEmpty || rendering.isEmpty then none
  else some (String.ofList (lower word), String.ofList rendering)

structure Caser where
  romanization : Text.Romanization
  acronyms : Table

namespace Caser

def plain (r : Text.Romanization) : Caser :=
  ⟨r, .empty⟩

def addAcronym (k : Caser) (word rendering : String) : Caser :=
  { k with acronyms := k.acronyms.insert (String.ofList (lower word.toList)) rendering }

def ofAcronyms (r : Text.Romanization) (l : List (String × String)) : Caser :=
  l.foldl (fun k p => k.addAcronym p.1 p.2) (plain r)

def words (k : Caser) (name : String) : List (List Char) :=
  Naming.words k.romanization name

def render (k : Caser) (word : List Char) : List Char :=
  match k.acronyms.get? (String.ofList (lower word)) with
  | some rendering => stripInvalid rendering.toList
  | none => capitalize word

def upperSuffix (k : Caser) (name : String) : String :=
  String.ofList ((k.words name).flatMap k.render)

def upperIdent (k : Caser) (name : String) : String :=
  String.ofList (markDigit 'X' ((k.words name).flatMap k.render))

def escapeReserved (s : List Char) : List Char :=
  if reservedWords.contains (String.ofList s) then s ++ ['_'] else s

def lowerIdent (k : Caser) (name : String) : String :=
  match k.words name with
  | [] => ""
  | w :: ws =>
    String.ofList (markDigit '_' (escapeReserved (stripInvalid (lower w) ++ ws.flatMap k.render)))

end Caser

end QueryTyping.Naming
