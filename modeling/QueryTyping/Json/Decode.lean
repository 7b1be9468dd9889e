import QueryTyping.Json.Document
import QueryTyping.Text.Quoted

namespace QueryTyping.Json

inductive Step where
  | key (name : String)
  | index (n : Nat)
  | betweenKeys
  deriving DecidableEq, Repr

abbrev Path := List Step

namespace Path

def segment : Step → String
  | .key k => k
  | .index n => "[" ++ n.repr ++ "]"
  | .betweenKeys => "?"

def suffix : Path → String
  | [] => ""
  | .index n :: p => segment (.index n) ++ suffix p
  | s :: p => "." ++ segment s ++ suffix p

def text : Path → String
  | [] => "."
  | s :: p => segment s ++ suffix p

end Path

inductive Found where
  | null
  | bool (b : Bool)
  | number (n : Number)
  | string (s : String)
  | sequence
  | map
  deriving DecidableEq, Repr

def Found.describe : Found → String
  | null => "null"
  | bool b => "boolean `" ++ (if b then "true" else "false") ++ "`"
  | number n => n.describe
  | string s => "string " ++ Text.quoted s
  | sequence => "sequence"
  | map => "map"

inductive Complaint where
  | fault (f : Fault)
  | wrongType (found : Found) (wanted : String)
  | wrongValue (found : Found) (wanted : String)
  | missingField (name : String)
  | duplicateField (name : String)
  | unknownField (name : String) (known : List String)
  | unknownVariant (name : String) (known : List String)
  | wrongLength (count : Nat) (wanted : String)
  deriving DecidableEq, Repr

namespace Complaint

def named (s : String) : String :=
  "`" ++ s ++ "`"

def oneOf : List String → String
  | [] => "nothing"
  | [a] => named a
  | [a, b] => named a ++ " or " ++ named b
  | l => "one of " ++ String.intercalate ", " (l.map named)

def elements (n : Nat) : String :=
  n.repr ++ (if n = 1 then " element" else " elements")

def message : Complaint → String
  | fault f => f.message
  | wrongType f w => "invalid type: " ++ f.describe ++ ", expected " ++ w
  | wrongValue f w => "invalid value: " ++ f.describe ++ ", expected " ++ w
  | missingField n => "missing field " ++ named n
  | duplicateField n => "duplicate field " ++ named n
  | unknownField n known => "unknown field " ++ named n ++ ", expected " ++ oneOf known
  | unknownVariant n known => "unknown variant " ++ named n ++ ", expected " ++ oneOf known
  | wrongLength n w => "invalid length " ++ n.repr ++ ", expected " ++ w

end Complaint

structure Refusal where
  complaint : Complaint
  path : Path
  deriving DecidableEq, Repr

abbrev Decoded := Except Refusal

def refuse (c : Complaint) : Decoded α :=
  .error ⟨c, []⟩

def refuseFault (f : Fault) : Decoded α :=
  refuse (.fault f)

def within (s : Step) (x : Decoded α) : Decoded α :=
  x.mapError fun r => { r with path := s :: r.path }

namespace Document

def found : Document → Except Fault Found
  | null => .ok .null
  | bool b => .ok (.bool b)
  | number v => v.map .number
  | string v => v.map .string
  | array _ _ => .ok .sequence
  | object _ _ => .ok .map
  | broken _ f _ => .error f

def mismatch (wanted : String) (d : Document) : Decoded α :=
  match d.found with
  | .ok f => refuse (.wrongType f wanted)
  | .error f => refuseFault f

def text : Document → Decoded String
  | string (.ok s) => .ok s
  | d => d.mismatch "a string"

mutual

def skippingFault? : Document → Option Fault
  | null | bool _ | number _ | string _ => none
  | broken _ _ f => some f
  | array ds stop => (skippingFaultOfList? ds).or stop.skippingFault?
  | object es stop => (skippingFaultOfEntries? es).or stop.skippingFault?

def skippingFaultOfList? : List Document → Option Fault
  | [] => none
  | d :: ds => d.skippingFault?.or (skippingFaultOfList? ds)

def skippingFaultOfEntries? : List (Key × Document) → Option Fault
  | [] => none
  | (_, d) :: es => d.skippingFault?.or (skippingFaultOfEntries? es)

end

def skip (d : Document) : Decoded Unit :=
  match d.skippingFault? with
  | some f => refuseFault f
  | none => .ok ()

def scalarFault? : Except Fault α → Option Fault
  | .ok _ => none
  | .error f => some f

mutual

def fault? (room : Nat) : Document → Option Fault
  | null | bool _ => none
  | number v => scalarFault? v
  | string v => scalarFault? v
  | broken _ f _ => some f
  | array ds stop =>
    if room ≤ 1 then some .tooDeep else (faultOfList? (room - 1) ds).or stop.fault?
  | object es stop =>
    if room ≤ 1 then some .tooDeep else (faultOfEntries? (room - 1) es).or stop.fault?

def faultOfList? (room : Nat) : List Document → Option Fault
  | [] => none
  | d :: ds => (d.fault? room).or (faultOfList? room ds)

def faultOfEntries? (room : Nat) : List (Key × Document) → Option Fault
  | [] => none
  | (k, d) :: es => (scalarFault? k).or ((d.fault? room).or (faultOfEntries? room es))

end

end Document

def ListEnd.check (e : ListEnd) : Decoded Unit :=
  match e.fault? with
  | some f => refuseFault f
  | none => .ok ()

def decodeItems (read : Document → Decoded α) (i : Nat) : List Document → Decoded (List α)
  | [] => return []
  | d :: ds => return (← within (.index i) (read d)) :: (← decodeItems read (i + 1) ds)

def decodeList (read : Document → Decoded α) : Document → Decoded (List α)
  | .array ds stop => do
    let xs ← decodeItems read 0 ds
    stop.check
    return xs
  | d => d.mismatch "a sequence"

def decodeNext (stop : ListEnd) (i : Nat) (read : Document → Decoded α) (absent : Decoded α) :
    List Document → Decoded (α × List Document)
  | d :: ds => return (← within (.index i) (read d), ds)
  | [] => do
    stop.check
    return (← absent, [])

def decodeClose (stop : ListEnd) (rest : List Document) : Decoded Unit :=
  if rest.isEmpty then
    match stop.closingFault? with
    | some f => refuseFault f
    | none => .ok ()
  else refuseFault .trailingCharacters

inductive Slot (σ : Type) where
  | unknown
  | taken
  | free (read : Document → Decoded σ)

def decodeEntries (known : Option (List String)) (slot : σ → String → Slot σ) (acc : σ) :
    List (Key × Document) → ObjectEnd → Decoded σ
  | [], stop =>
    match stop with
    | .closed => return acc
    | .noColon (.ok k) f =>
      match slot acc k, known with
      | .taken, _ => refuse (.duplicateField k)
      | .unknown, some names => within (.key k) (refuse (.unknownField k names))
      | _, _ => refuseFault f
    | stop =>
      match stop.fault? with
      | some f => within .betweenKeys (refuseFault f)
      | none => return acc
  | (.error f, _) :: _, _ => within .betweenKeys (refuseFault f)
  | (.ok k, d) :: es, stop =>
    match slot acc k, known with
    | .taken, _ => refuse (.duplicateField k)
    | .unknown, some names => within (.key k) (refuse (.unknownField k names))
    | .unknown, none => do
      within (.key k) d.skip
      decodeEntries known slot acc es stop
    | .free read, _ => do
      let acc ← within (.key k) (read d)
      decodeEntries known slot acc es stop

def required (name : String) : Option α → Decoded α
  | some a => .ok a
  | none => refuse (.missingField name)

end QueryTyping.Json
