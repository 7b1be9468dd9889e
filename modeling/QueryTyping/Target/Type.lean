import QueryTyping.Catalog.Type
import QueryTyping.Target.Name
import QueryTyping.Text.Sorted

namespace QueryTyping

inductive TargetType where
  | builtin (name : String)
  | named (name : Target.Name)
  /-- A text type with one constant for each label: `labels` name the constants, `values` are the
  catalog labels they stand for. -/
  | enum (name : Target.Name) (labels values : List String) (source : CatalogType)
  | composite (name : Target.Name) (fieldNames : List String) (fieldTypes : List TargetType)
      (source : CatalogType)
  | array (elem : TargetType)
  deriving Repr

namespace TargetType

def packagePath : TargetType → String
  | builtin _ => ""
  | named n | enum n _ _ _ | composite n _ _ _ => n.path
  | array t => t.packagePath

def pkg : TargetType → String
  | builtin _ => ""
  | named n | enum n _ _ _ | composite n _ _ _ => n.pkg
  | array t => t.pkg

def baseName : TargetType → String
  | builtin name => name
  | named n | enum n _ _ _ | composite n _ _ _ => n.name
  | array t => "[]" ++ t.baseName

def spelledIn (own : String) : TargetType → String
  | array t => "[]" ++ t.spelledIn own
  | builtin name => name
  | named n | enum n _ _ _ | composite n _ _ _ =>
    if n.path = own ∨ n.path = "" ∨ n.pkg = "" then n.name else n.pkg ++ "." ++ n.name

def foreign (own path : String) : List String :=
  if path = "" ∨ path = own then [] else [path]

mutual

def packages (own : String) : TargetType → List String
  | builtin _ => []
  | named n | enum n _ _ _ => foreign own n.path
  | composite n _ ts _ => packagesOfList own ts ++ foreign own n.path
  | array t => t.packages own

def packagesOfList (own : String) : List TargetType → List String
  | [] => []
  | t :: ts => t.packages own ++ packagesOfList own ts

end

theorem packagesOfList_eq_flatMap (own : String) (ts : List TargetType) :
    packagesOfList own ts = ts.flatMap (packages own) := by
  induction ts with
  | nil => rfl
  | cons t ts ih => simp [packagesOfList, ih]

def imports (own : String) (t : TargetType) : List String :=
  Text.sortedSet (t.packages own)

def isEnum : TargetType → Bool
  | enum .. => true
  | _ => false

def isComposite : TargetType → Bool
  | composite .. => true
  | _ => false

end TargetType

end QueryTyping
