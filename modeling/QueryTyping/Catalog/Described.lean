import QueryTyping.Catalog.Engine
import QueryTyping.Catalog.WellKnown

namespace QueryTyping.Catalog

inductive Described where
  | simple (oid : Option Oid) (name : String)
  | pseudo (oid : Option Oid) (name : String)
  | enum (oid : Option Oid) (name : String) (labels : List String)
  | composite (oid : Option Oid) (name : String) (fields : List (String × Described))
  | domain (oid : Option Oid) (name : String) (base : Described)
  | array (oid : Option Oid) (name : String) (elem : Described)
  | range (oid : Option Oid) (name : String) (bound : Described)
  deriving Repr

namespace Described

def oid? : Described → Option Oid
  | simple o _ | pseudo o _ | enum o _ _ | composite o _ _ | domain o _ _ | array o _ _
  | range o _ _ => o

def name : Described → String
  | simple _ n | pseudo _ n | enum _ n _ | composite _ n _ | domain _ n _ | array _ n _
  | range _ n _ => n

def oid (d : Described) : Except EngineFault Oid :=
  match d.oid? with
  | some o => .ok o
  | none => .error (.rejected ("type " ++ d.name ++ " has no oid"))

def shape : Described → Except EngineFault TypeClass
  | simple _ _ | range _ _ _ => .ok .scalar
  | pseudo _ _ => .ok .pseudo
  | enum _ _ _ => .ok .enum
  | composite _ _ _ => .ok .composite
  | domain _ _ base => .domain <$> base.oid
  | array _ _ elem => .array <$> elem.oid

def labels : Described → Except EngineFault (List String)
  | enum _ _ labels => .ok labels
  | d => .error (.rejected (d.name ++ " is not an enum"))

def fieldOids : List (String × Described) → Except EngineFault (List (String × Oid))
  | [] => return []
  | (name, d) :: fields => return (name, ← d.oid) :: (← fieldOids fields)

def fields : Described → Except EngineFault (List (String × Oid))
  | composite _ _ fields => fieldOids fields
  | d => .error (.rejected (d.name ++ " is not a composite"))

end Described

structure DescribedTypes where
  types : List (Oid × Described)
  deriving Repr

namespace DescribedTypes

def empty : DescribedTypes :=
  ⟨[]⟩

def get? (r : DescribedTypes) (oid : Oid) : Option Described :=
  r.types.lookup oid

abbrev Remember := EStateM EngineFault DescribedTypes

mutual

def remember (d : Described) : Remember Oid := do
  let oid ← MonadExcept.ofExcept d.oid
  match (← get).get? oid with
  | some _ => return oid
  | none =>
    modify fun r => ⟨(oid, d) :: r.types⟩
    match d with
    | .simple _ _ | .pseudo _ _ | .enum _ _ _ => return oid
    | .composite _ _ fields => do
      rememberFields fields
      return oid
    | .domain _ _ inner | .array _ _ inner | .range _ _ inner => do
      let _ ← remember inner
      return oid

def rememberFields : List (String × Described) → Remember Unit
  | [] => return ()
  | (_, d) :: fields => do
    let _ ← remember d
    rememberFields fields

end

def lookup (r : DescribedTypes) (oid : Oid) : Except EngineFault Described :=
  match r.get? oid with
  | some d => .ok d
  | none => .error (.rejected ("type with oid " ++ oid.val.toNat.repr ++
      " was not reported by describe"))

def shape (r : DescribedTypes) (oid : Oid) : Except EngineFault TypeClass := do
  (← r.lookup oid).shape

def labels (r : DescribedTypes) (oid : Oid) : Except EngineFault (List String) := do
  (← r.lookup oid).labels

def fields (r : DescribedTypes) (oid : Oid) : Except EngineFault (List (String × Oid)) := do
  (← r.lookup oid).fields

end DescribedTypes

def firstUserOid : Nat :=
  16384

def isBuiltin (oid : Oid) : Bool :=
  oid.val.toNat < firstUserOid

/-- The display form `INT4` or `TEXT[]` of a builtin is `int4` or `_text` in the catalog. -/
def catalogName (name : String) (builtin : Bool) : String :=
  if builtin then
    match (name.toList.map Char.toLower).reverse with
    | ']' :: '[' :: elem => String.ofList ('_' :: elem.reverse)
    | s => String.ofList s.reverse
  else name

def DescribedTypes.header (r : DescribedTypes) (schemaOf : Oid → Option String) (oid : Oid) :
    Except EngineFault TypeHeader := do
  let shape ← r.shape oid
  let d ← r.lookup oid
  let schema := if isBuiltin oid then some builtinSchema else schemaOf oid
  return ⟨catalogName d.name (isBuiltin oid), schema, shape⟩

end QueryTyping.Catalog
