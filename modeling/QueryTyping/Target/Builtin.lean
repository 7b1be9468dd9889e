import QueryTyping.Catalog.WellKnown
import QueryTyping.Target.Type

namespace QueryTyping.Target

def builtins : List (Oid × TargetType) := [
  (⟨16⟩, .builtin "bool"), (⟨17⟩, .builtin "[]byte"), (⟨18⟩, .builtin "int8"),
  (⟨19⟩, .builtin "string"), (⟨20⟩, .builtin "int64"), (⟨21⟩, .builtin "int16"),
  (⟨23⟩, .builtin "int32"), (⟨25⟩, .builtin "string"), (⟨26⟩, .builtin "uint32"),
  (⟨114⟩, .builtin "[]byte"), (⟨700⟩, .builtin "float32"), (⟨701⟩, .builtin "float64"),
  (⟨1042⟩, .builtin "string"), (⟨1043⟩, .builtin "string"),
  (⟨1082⟩, .named (.inPackage "time" "Time")), (⟨1114⟩, .named (.inPackage "time" "Time")),
  (⟨1184⟩, .named (.inPackage "time" "Time")), (⟨1186⟩, .named (.inPackage "time" "Duration")),
  (⟨3802⟩, .builtin "[]byte")]

def builtin? (oid : Oid) : Option TargetType :=
  builtins.lookup oid

def ofScalar (h : Catalog.Head) : TargetType :=
  (builtin? h.oid).getD (.named (.bare h.name))

end QueryTyping.Target
