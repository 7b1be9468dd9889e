import QueryTyping.Json.Decode
import QueryTyping.Json.Value
import QueryTyping.Query

namespace QueryTyping

open Json (Decoded Document Slot refuse refuseFault within)

def ResultKind.toJson (k : ResultKind) : Json :=
  .string k.name

namespace ResultKind

def ofVariant (s : String) : Decoded ResultKind :=
  match ofName? s with
  | some k => .ok k
  | none => refuse (.unknownVariant s (all.map name))

def ofEntries : List (Json.Key × Document) → Json.ObjectEnd → Decoded ResultKind
  | (.error f, _) :: _, _ => refuseFault f
  | (.ok k, d) :: es, stop => do
    let kind ← ofVariant k
    within (.key k) (match d with
      | .null => .ok ()
      | d => d.mismatch "unit")
    match es, stop with
    | [], .closed => return kind
    | [], .cutOff => refuseFault .endInObject
    | _, _ => refuseFault .noValue
  | [], .closed => refuseFault .noValue
  | [], .noColon k f => do
    let _ ← ofVariant (← k.mapError fun f => ⟨.fault f, []⟩)
    refuseFault f
  | [], stop => do
    match stop.fault? with
    | some f => refuseFault f
    | none => refuseFault .noValue

def decode : Document → Decoded ResultKind
  | .string (.ok s) => ofVariant s
  | .string (.error f) => refuseFault f
  | .object es stop => ofEntries es stop
  | .broken .nothing f _ | .broken .quote f _ => refuseFault f
  | _ => refuseFault .noValue

end ResultKind

namespace SourceQuery

def toJson (q : SourceQuery) : Json :=
  .object [("name", .string q.name), ("preparedSql", .string q.sql),
    ("paramNames", .strings q.paramNames), ("resultKind", q.kind.toJson)]

structure Draft where
  name : Option String
  sql : Option String
  paramNames : Option (List String)
  kind : Option ResultKind

def Draft.slot (d : Draft) (key : String) : Slot Draft :=
  if key = "name" then
    if d.name.isSome then .taken
    else .free fun v => return { d with name := some (← v.text) }
  else if key = "preparedSql" then
    if d.sql.isSome then .taken
    else .free fun v => return { d with sql := some (← v.text) }
  else if key = "paramNames" then
    if d.paramNames.isSome then .taken
    else .free fun v => return { d with paramNames := some (← Json.decodeList Document.text v) }
  else if key = "resultKind" then
    if d.kind.isSome then .taken
    else .free fun v => return { d with kind := some (← ResultKind.decode v) }
  else .unknown

def Draft.query (d : Draft) : Decoded SourceQuery := do
  let name ← Json.required "name" d.name
  let sql ← Json.required "preparedSql" d.sql
  let kind ← Json.required "resultKind" d.kind
  return ⟨name, sql, d.paramNames.getD [], kind⟩

def ofItems (ds : List Document) (stop : Json.ListEnd) : Decoded SourceQuery := do
  let short {α : Type} (n : Nat) : Decoded α :=
    refuse (.wrongLength n "struct SourceQuery with 4 elements")
  let (name, ds) ← Json.decodeNext stop 0 Document.text (short 0) ds
  let (sql, ds) ← Json.decodeNext stop 1 Document.text (short 1) ds
  let (paramNames, ds) ← Json.decodeNext stop 2 (Json.decodeList Document.text) (pure []) ds
  let (kind, ds) ← Json.decodeNext stop 3 ResultKind.decode (short 3) ds
  Json.decodeClose stop ds
  return ⟨name, sql, paramNames, kind⟩

def decode : Document → Decoded SourceQuery
  | .object es stop => do
    (← Json.decodeEntries none Draft.slot ⟨none, none, none, none⟩ es stop).query
  | .array ds stop => ofItems ds stop
  | d => d.mismatch "struct SourceQuery"

end SourceQuery

end QueryTyping
