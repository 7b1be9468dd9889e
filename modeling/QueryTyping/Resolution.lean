import QueryTyping.Settings
import QueryTyping.Target.Builtin

namespace QueryTyping

/-- What a run has resolved, newest first; who uses which name, by package; and the declarations,
oldest first. -/
structure Registry where
  resolved : List (CatalogType × TargetType)
  claims : List ((String × String) × Claimant)
  declarations : List TargetType
  deriving Repr

namespace Registry

def empty : Registry :=
  ⟨[], [], []⟩

def target? (r : Registry) (oid : Oid) : Option TargetType :=
  (r.resolved.find? fun p => p.1.oid = oid).map Prod.snd

def since (new old : Registry) : List (CatalogType × TargetType) :=
  (new.resolved.take (new.resolved.length - old.resolved.length)).reverse

def imports (r : Registry) (own : String) : List String :=
  Text.sortedSet (r.resolved.flatMap fun p => p.2.packages own)

end Registry

abbrev Resolve := EStateM Failure Registry

namespace Resolution

open Naming (fallbackName fresh)

def claim (package name : String) (who : Claimant) : Resolve Unit := do
  match (← get).claims.lookup (package, name) with
  | none => modify fun r => { r with claims := ((package, name), who) :: r.claims }
  | some owner =>
    if owner.describe = who.describe then return ()
    else throw (.nameCollision package name owner who)

def declare (t : TargetType) : Resolve TargetType := do
  modify fun r => { r with declarations := r.declarations ++ [t] }
  return t

def remember (t : CatalogType) (target : TargetType) : Resolve TargetType := do
  modify fun r => { r with resolved := (t, target) :: r.resolved }
  return target

def override? (s : Settings) (h : Catalog.Head) : Option (String × String) :=
  match s.overrides.get? h.qualified with
  | some v => some (h.qualified, v)
  | none => (s.overrides.get? h.name).map (h.name, ·)

def overridden? (s : Settings) (h : Catalog.Head) : Resolve (Option TargetType) :=
  match override? s h with
  | none => return none
  | some (key, value) =>
    match Target.Name.parse value with
    | .error f => throw (.invalidOverride key value (.target f))
    | .ok n => do
      if n.path ≠ "" then claim n.path n.name (.type h)
      return some (.named n)

def orElse (s fallback : String) : String :=
  if s = "" then fallback else s

def typeName (s : Settings) (stem : String) (h : Catalog.Head) : String :=
  orElse (s.caser.upperIdent h.name) (fallbackName stem h.name)

def generatedName (s : Settings) (name : String) : Target.Name :=
  .inPackage s.packagePath name

def constantName (s : Settings) (enumName : String) (i : Nat) (label : String) : String :=
  enumName ++ orElse (s.caser.upperSuffix label) (fallbackName ("UnnamedLabel" ++ i.repr) label)

def fieldIdent (s : Settings) (i : Nat) (used : List String) (field : String) : String :=
  fresh (orElse (s.caser.upperIdent field) (fallbackName ("UnnamedField" ++ i.repr) field)) "" i
    used

def claimLabels (s : Settings) (h : Catalog.Head) (enumName : String) (i : Nat) :
    List String → Resolve (List String)
  | [] => return []
  | label :: labels => do
    let constant := constantName s enumName i label
    claim s.packagePath constant (.label label h)
    return constant :: (← claimLabels s h enumName (i + 1) labels)

mutual

/-- `visiting` holds the composites whose fields are being resolved, innermost first. -/
def resolveIn (s : Settings) (visiting : List (Oid × String)) (t : CatalogType) :
    Resolve TargetType := do
  match (← get).target? t.oid with
  | some target => return target
  | none =>
    if t.oid ∈ visiting.map Prod.fst then
      throw (.cycle (t.head.name :: visiting.map Prod.snd).reverse)
    else
      match ← overridden? s t.head with
      | some target => remember t target
      | none =>
        match t with
        | .scalar h => remember (.scalar h) (Target.ofScalar h)
        | .pseudo h => throw (.unmapped h)
        | .enum h labels => do
          let name := typeName s "UnnamedEnum" h
          claim s.packagePath name (.type h)
          let constants ← claimLabels s h name 0 labels
          let target ← declare (.enum (generatedName s name) constants labels (.enum h labels))
          remember (.enum h labels) target
        | .composite h fields => do
          let name := typeName s "UnnamedComposite" h
          claim s.packagePath name (.type h)
          let resolved ← resolveFields s ((h.oid, h.name) :: visiting) 0 [] fields
          let target ← declare (.composite (generatedName s name) (resolved.map Prod.fst)
            (resolved.map Prod.snd) (.composite h fields))
          remember (.composite h fields) target
        | .domain h base => do
          let target ← resolveIn s visiting base
          remember (.domain h base) target
        | .array h elem => do
          let target ← resolveIn s visiting elem
          remember (.array h elem) (.array target)

def resolveFields (s : Settings) (visiting : List (Oid × String)) (i : Nat) (used : List String) :
    List (String × CatalogType) → Resolve (List (String × TargetType))
  | [] => return []
  | (field, t) :: fields => do
    let ident := fieldIdent s i used field
    let target ← resolveIn s visiting t
    return (ident, target) :: (← resolveFields s visiting (i + 1) (ident :: used) fields)

end

end Resolution

def resolve (s : Settings) (t : CatalogType) : Resolve TargetType :=
  Resolution.resolveIn s [] t

end QueryTyping
