namespace QueryTyping

structure Oid where
  val : UInt32
  deriving DecidableEq, Repr

namespace Catalog

structure Head where
  oid : Oid
  name : String
  schema : Option String
  deriving DecidableEq, Repr

def Head.qualified (h : Head) : String :=
  match h.schema with
  | some s => s ++ "." ++ h.name
  | none => h.name

end Catalog

inductive CatalogType where
  | scalar (head : Catalog.Head)
  | pseudo (head : Catalog.Head)
  | enum (head : Catalog.Head) (labels : List String)
  | composite (head : Catalog.Head) (fields : List (String × CatalogType))
  | domain (head : Catalog.Head) (base : CatalogType)
  | array (head : Catalog.Head) (elem : CatalogType)
  deriving Repr

namespace CatalogType

def head : CatalogType → Catalog.Head
  | scalar h | pseudo h | enum h _ | composite h _ | domain h _ | array h _ => h

def oid (t : CatalogType) : Oid :=
  t.head.oid

def qualified (t : CatalogType) : String :=
  t.head.qualified

end CatalogType

end QueryTyping
