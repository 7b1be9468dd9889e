import QueryTyping.Catalog.Type

namespace QueryTyping.Catalog

def wellKnownNames : List (Oid × String) := [
  (⟨16⟩, "bool"), (⟨17⟩, "bytea"), (⟨18⟩, "char"), (⟨19⟩, "name"), (⟨20⟩, "int8"),
  (⟨21⟩, "int2"), (⟨23⟩, "int4"), (⟨25⟩, "text"), (⟨26⟩, "oid"), (⟨114⟩, "json"),
  (⟨700⟩, "float4"), (⟨701⟩, "float8"), (⟨1042⟩, "bpchar"), (⟨1043⟩, "varchar"),
  (⟨1082⟩, "date"), (⟨1083⟩, "time"), (⟨1114⟩, "timestamp"), (⟨1184⟩, "timestamptz"),
  (⟨1186⟩, "interval"), (⟨1700⟩, "numeric"), (⟨2950⟩, "uuid"), (⟨3802⟩, "jsonb")]

def wellKnownName? (oid : Oid) : Option String :=
  wellKnownNames.lookup oid

def builtinSchema : String :=
  "pg_catalog"

def wellKnown? (oid : Oid) : Option CatalogType :=
  (wellKnownName? oid).map fun name => .scalar ⟨oid, name, some builtinSchema⟩

theorem oid_of_wellKnown? {oid : Oid} {t : CatalogType} (h : wellKnown? oid = some t) :
    t.oid = oid := by
  obtain ⟨name, _, rfl⟩ := Option.map_eq_some_iff.1 h
  rfl

end QueryTyping.Catalog
