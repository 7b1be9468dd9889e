import QueryTyping.Failure
import QueryTyping.Naming.Caser

namespace QueryTyping

structure Settings where
  packagePath : String
  overrides : Table
  acronyms : Table
  /-- How long a run may sleep, in milliseconds. -/
  deadline : Option Nat
  romanization : Text.Romanization

namespace Settings

def caser (s : Settings) : Naming.Caser :=
  .ofAcronyms s.romanization s.acronyms.entries

def parseOverride (entry : String) : Except Failure (String × String) :=
  match Text.cutFirst '=' entry.toList with
  | none => .error (.invalidOverride entry "" .noSeparator)
  | some (k, v) =>
    let key := String.ofList (Text.trim k)
    let value := String.ofList (Text.trim v)
    if key.isEmpty then .error (.invalidOverride key value .noKey)
    else match Target.Name.parse value with
      | .error f => .error (.invalidOverride key value (.target f))
      | .ok _ => .ok (key, value)

def parseAcronym (entry : String) : Except Failure (String × String) :=
  match Naming.acronymOf? entry with
  | none => .error (.invalidAcronym entry)
  | some p => .ok p

def parseOverrides (entries : List String) : Except Failure Table :=
  (entries.mapM parseOverride).map Table.ofList

def parseAcronyms (entries : List String) : Except Failure Table :=
  (entries.mapM parseAcronym).map Table.ofList

end Settings

end QueryTyping
