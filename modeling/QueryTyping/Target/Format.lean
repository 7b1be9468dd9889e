import QueryTyping.Catalog.Format
import QueryTyping.Target.Type

namespace QueryTyping.TargetType

def nameEntries (n : Target.Name) : List (String × Json) :=
  [("pkgPath", .string n.path), ("pkg", .string n.pkg), ("name", .string n.name)]

mutual

def toJson : TargetType → Json
  | builtin name => .object [("variant", .string "builtin"), ("name", .string name)]
  | named n => .object (("variant", .string "opaque") :: nameEntries n)
  | enum n labels values source =>
    .object (("variant", .string "enum") :: nameEntries n ++
      [("labels", .strings labels), ("values", .strings values), ("source", source.toJson)])
  | composite n fieldNames fieldTypes source =>
    .object (("variant", .string "composite") :: nameEntries n ++
      [("fieldNames", .strings fieldNames), ("fieldTypes", .array (listToJson fieldTypes)),
        ("source", source.toJson)])
  | array elem => .object [("variant", .string "array"), ("elem", elem.toJson)]

def listToJson : List TargetType → List Json
  | [] => []
  | t :: ts => t.toJson :: listToJson ts

end

theorem listToJson_eq_map (ts : List TargetType) : listToJson ts = ts.map toJson := by
  induction ts with
  | nil => rfl
  | cons t ts ih => simp [listToJson, ih]

end QueryTyping.TargetType
