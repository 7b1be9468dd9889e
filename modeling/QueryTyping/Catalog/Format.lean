import QueryTyping.Catalog.Type
import QueryTyping.Json.Decode
import QueryTyping.Json.Value

namespace QueryTyping.CatalogType

open Catalog (Head)
open Json (Decoded Document refuse refuseFault)

def headEntries (h : Head) : List (String × Json) :=
  [("oid", .number h.oid.val.toNat), ("name", .string h.name)] ++
    (h.schema.map fun s => ("namespace", .string s)).toList

def entry (h : Head) (kind : String) (details : List (String × Json)) : Json :=
  .object (headEntries h ++ [("kind", .object (("kind", .string kind) :: details))])

mutual

def toJson : CatalogType → Json
  | scalar h => entry h "scalar" []
  | pseudo h => entry h "pseudo" []
  | enum h labels => entry h "enum" [("labels", .strings labels)]
  | composite h fields => entry h "composite" [("fields", .array (fieldsToJson fields))]
  | domain h base => entry h "domain" [("base", base.toJson)]
  | array h elem => entry h "array" [("elem", elem.toJson)]

def fieldsToJson : List (String × CatalogType) → List Json
  | [] => []
  | (name, t) :: fields =>
    .object [("name", .string name), ("type", t.toJson)] :: fieldsToJson fields

end

inductive Tag where
  | scalar
  | pseudo
  | enum
  | composite
  | domain
  | array
  deriving DecidableEq, Repr

namespace Tag

def all : List Tag :=
  [scalar, pseudo, enum, composite, domain, array]

def name : Tag → String
  | scalar => "scalar"
  | pseudo => "pseudo"
  | enum => "enum"
  | composite => "composite"
  | domain => "domain"
  | array => "array"

def variant : Tag → String
  | scalar => "Scalar"
  | pseudo => "Pseudo"
  | enum => "Enum"
  | composite => "Composite"
  | domain => "Domain"
  | array => "Array"

def ofIndex (n : Nat) : Decoded Tag :=
  match all[n]? with
  | some t => .ok t
  | none =>
    refuse (.wrongValue (.number (.integer n)) ("variant index 0 <= i < " ++ all.length.repr))

def decode (held : Bool) : Document → Decoded Tag
  | .string (.ok s) =>
    match all.find? fun t => t.name == s with
    | some t => .ok t
    | none => refuse (.unknownVariant s (all.map name))
  | .number (.ok (.integer n)) =>
    if held ∧ 0 ≤ n then ofIndex n.toNat
    else refuse (.wrongType (.number (.integer n)) "variant identifier")
  | d => d.mismatch "variant identifier"

def ofEntries (held : Bool) (room : Nat) (found : Option Tag) :
    List (Json.Key × Document) → Json.ObjectEnd → Decoded Tag
  | [], stop =>
    match stop with
    | .noColon (.ok "kind") f =>
      if found.isSome then refuse (.duplicateField "kind") else refuseFault f
    | stop =>
      match stop.fault? with
      | some f => refuseFault f
      | none => Json.required "kind" found
  | (.error f, _) :: _, _ => refuseFault f
  | (.ok "kind", d) :: es, stop => do
    if found.isSome then refuse (.duplicateField "kind")
    ofEntries held room (some (← decode held d)) es stop
  | (.ok _, d) :: es, stop =>
    match d.fault? room with
    | some f => refuseFault f
    | none => ofEntries held room found es stop

def ofItems (held : Bool) (room : Nat) : List Document → Json.ListEnd → Decoded Tag
  | [], stop => do
    stop.check
    refuse (.missingField "kind")
  | d :: ds, stop => do
    let tag ← decode held d
    match (Document.faultOfList? room ds).or stop.fault? with
    | some f => refuseFault f
    | none => return tag

end Tag

def decodeOid : Document → Decoded Oid
  | .number (.ok (.integer n)) =>
    if 0 ≤ n ∧ n.toNat < UInt32.size then .ok ⟨UInt32.ofNat n.toNat⟩
    else refuse (.wrongValue (.number (.integer n)) "u32")
  | d => d.mismatch "u32"

def decodeSchema : Document → Decoded (Option String)
  | .null => .ok none
  | d => some <$> d.text

def labelsOf (d : Document) : Decoded (List String) :=
  Json.decodeList Document.text d

inductive Kind where
  | scalar
  | pseudo
  | enum (labels : List String)
  | composite (fields : List (String × CatalogType))
  | domain (base : CatalogType)
  | array (elem : CatalogType)

def Kind.type (h : Head) : Kind → CatalogType
  | scalar => .scalar h
  | pseudo => .pseudo h
  | enum labels => .enum h labels
  | composite fields => .composite h fields
  | domain base => .domain h base
  | array elem => .array h elem

structure Draft where
  oid : Option Oid
  name : Option String
  schema : Option (Option String)
  kind : Option Kind

def Draft.type (d : Draft) : Decoded CatalogType := do
  let oid ← Json.required "oid" d.oid
  let name ← Json.required "name" d.name
  let kind ← Json.required "kind" d.kind
  return kind.type ⟨oid, name, d.schema.getD none⟩

def closeList (held : Bool) (n : Nat) (stop : Json.ListEnd) (rest : List Document) :
    Decoded Unit :=
  if held then
    if rest.isEmpty then .ok ()
    else refuse (.wrongLength (n + rest.length) (Json.Complaint.elements n ++ " in sequence"))
  else Json.decodeClose stop rest

def tooShort (n : Nat) : Decoded α :=
  refuse (.wrongLength n "struct CatalogType with 4 elements")

def tooShortField (n : Nat) : Decoded α :=
  refuse (.wrongLength n "struct CompositeField with 2 elements")

def tooShortKind (t : Tag) : Decoded α :=
  refuse (.wrongLength 0 ("struct variant CatalogKind::" ++ t.variant ++ " with 1 element"))

def closeObject (stop : Json.ObjectEnd) (taken : String → Bool) : Decoded Unit :=
  match stop with
  | .noColon (.ok k) f => if taken k then refuse (.duplicateField k) else refuseFault f
  | stop =>
    match stop.fault? with
    | some f => refuseFault f
    | none => .ok ()

def Draft.taken (d : Draft) (key : String) : Bool :=
  (key == "oid" && d.oid.isSome) || (key == "name" && d.name.isSome) ||
    (key == "namespace" && d.schema.isSome) || (key == "kind" && d.kind.isSome)

mutual

/-- `room` is one more than the number of containers that may be entered, one inside the other;
`held` tells that the document is part of a kind that was held back. -/
def decodeAt (held : Bool) (room : Nat) : Document → Decoded CatalogType
  | .object es stop =>
    if room ≤ 1 then refuseFault .tooDeep
    else decodeEntries held (room - 1) ⟨none, none, none, none⟩ es stop
  | .array ds stop =>
    if room ≤ 1 then refuseFault .tooDeep
    else match ds with
      | [] => do
        stop.check
        tooShort 0
      | oid :: ds => do
        let oid ← decodeOid oid
        match ds with
        | [] => do
          stop.check
          tooShort 1
        | name :: ds => do
          let name ← name.text
          match ds with
          | [] => do
            stop.check
            tooShort 3
          | schema :: ds => do
            let schema ← decodeSchema schema
            match ds with
            | [] => do
              stop.check
              tooShort 3
            | kind :: ds => do
              let kind ← decodeKind held (room - 1) kind
              closeList held 4 stop ds
              return kind.type ⟨oid, name, schema⟩
  | d => d.mismatch "struct CatalogType"

def decodeEntries (held : Bool) (room : Nat) (draft : Draft) :
    List (Json.Key × Document) → Json.ObjectEnd → Decoded CatalogType
  | [], stop => do
    closeObject stop draft.taken
    draft.type
  | (.error f, _) :: _, _ => refuseFault f
  | (.ok k, d) :: es, stop =>
    if draft.taken k then refuse (.duplicateField k)
    else if k = "oid" then do
      decodeEntries held room { draft with oid := some (← decodeOid d) } es stop
    else if k = "name" then do
      decodeEntries held room { draft with name := some (← d.text) } es stop
    else if k = "namespace" then do
      decodeEntries held room { draft with schema := some (← decodeSchema d) } es stop
    else if k = "kind" then do
      decodeEntries held room { draft with kind := some (← decodeKind held room d) } es stop
    else do
      d.skip
      decodeEntries held room draft es stop

def decodeKind (held : Bool) (room : Nat) : Document → Decoded Kind
  | .object es stop =>
    if room ≤ 1 then refuseFault .tooDeep
    else do
      let tag ← Tag.ofEntries held (room - 1) none es stop
      match tag with
      | .scalar => return .scalar
      | .pseudo => return .pseudo
      | .enum => return .enum (← decodeLabels none es)
      | .composite => return .composite (← decodeFieldsOf room none es)
      | .domain => return .domain (← decodePart room "base" none es)
      | .array => return .array (← decodePart room "elem" none es)
  | .array ds stop =>
    if room ≤ 1 then refuseFault .tooDeep
    else do
      let tag ← Tag.ofItems held (room - 1) ds stop
      match tag, ds with
      | .scalar, _ :: ds => do
        closeList true 0 stop ds
        return .scalar
      | .pseudo, _ :: ds => do
        closeList true 0 stop ds
        return .pseudo
      | .enum, _ :: d :: ds => do
        let labels ← labelsOf d
        closeList true 1 stop ds
        return .enum labels
      | .composite, _ :: d :: ds => do
        let fields ← decodeFields room d
        closeList true 1 stop ds
        return .composite fields
      | .domain, _ :: d :: ds => do
        let base ← decodeAt true room d
        closeList true 1 stop ds
        return .domain base
      | .array, _ :: d :: ds => do
        let elem ← decodeAt true room d
        closeList true 1 stop ds
        return .array elem
      | t, _ => tooShortKind t
  | d => d.mismatch "internally tagged enum CatalogKind"

def decodeLabels (found : Option (List String)) :
    List (Json.Key × Document) → Decoded (List String)
  | [] => Json.required "labels" found
  | (k, d) :: es => do
    if k.toOption = some "labels" then
      if found.isSome then refuse (.duplicateField "labels")
      else decodeLabels (some (← labelsOf d)) es
    else decodeLabels found es

def decodePart (room : Nat) (key : String) (found : Option CatalogType) :
    List (Json.Key × Document) → Decoded CatalogType
  | [] => Json.required key found
  | (k, d) :: es => do
    if k.toOption = some key then
      if found.isSome then refuse (.duplicateField key)
      else decodePart room key (some (← decodeAt true room d)) es
    else decodePart room key found es

def decodeFieldsOf (room : Nat) (found : Option (List (String × CatalogType))) :
    List (Json.Key × Document) → Decoded (List (String × CatalogType))
  | [] => Json.required "fields" found
  | (k, d) :: es => do
    if k.toOption = some "fields" then
      if found.isSome then refuse (.duplicateField "fields")
      else decodeFieldsOf room (some (← decodeFields room d)) es
    else decodeFieldsOf room found es

def decodeFields (room : Nat) : Document → Decoded (List (String × CatalogType))
  | .array ds _ => decodeFieldList room ds
  | d => d.mismatch "a sequence"

def decodeFieldList (room : Nat) : List Document → Decoded (List (String × CatalogType))
  | [] => return []
  | d :: ds => return (← decodeField room d) :: (← decodeFieldList room ds)

def decodeField (room : Nat) : Document → Decoded (String × CatalogType)
  | .object es _ => decodeFieldEntries room none none es
  | .array [] _ => tooShortField 0
  | .array [name] _ => do
    let _ ← name.text
    tooShortField 1
  | .array (name :: t :: ds) stop => do
    let name ← name.text
    let t ← decodeAt true room t
    closeList true 2 stop ds
    return (name, t)
  | d => d.mismatch "struct CompositeField"

def decodeFieldEntries (room : Nat) (name : Option String) (type : Option CatalogType) :
    List (Json.Key × Document) → Decoded (String × CatalogType)
  | [] => return (← Json.required "name" name, ← Json.required "type" type)
  | (k, d) :: es => do
    if k.toOption = some "name" then
      if name.isSome then refuse (.duplicateField "name")
      else decodeFieldEntries room (some (← d.text)) type es
    else if k.toOption = some "type" then
      if type.isSome then refuse (.duplicateField "type")
      else decodeFieldEntries room name (some (← decodeAt true room d)) es
    else decodeFieldEntries room name type es

end

def depthLimit : Nat :=
  128

def parse (text : String) : Decoded CatalogType := do
  let (d, trailing) := Document.read text.toList
  let t ← decodeAt false depthLimit d
  if trailing then refuseFault .trailingCharacters
  return t

end QueryTyping.CatalogType
