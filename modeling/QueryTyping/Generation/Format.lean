import QueryTyping.Generation
import QueryTyping.Query.Format
import QueryTyping.Target.Format

namespace QueryTyping

def InputParam.toJson (p : InputParam) : Json :=
  .object [("name", .string p.name), ("ident", .string p.ident),
    ("pgType", p.catalogType.toJson), ("targetType", p.targetType.toJson),
    ("nullable", .bool p.nullable)]

def OutputColumn.toJson (c : OutputColumn) : Json :=
  .object [("pgName", .string c.catalogName), ("name", .string c.name), ("ident", .string c.ident),
    ("pgType", c.catalogType.toJson), ("targetType", c.targetType.toJson),
    ("nullable", .bool c.nullable)]

def TypedQuery.toJson (q : TypedQuery) : Json :=
  .object [("name", .string q.name), ("preparedSql", .string q.sql),
    ("resultKind", q.kind.toJson), ("inputs", .array (q.inputs.map InputParam.toJson)),
    ("outputs", .array (q.outputs.map OutputColumn.toJson))]

namespace Generation

def toJson (g : Generation) : Json :=
  .object [("packagePath", .string g.packagePath),
    ("queries", .array (g.queries.map TypedQuery.toJson)),
    ("declarations", .array (g.declarations.map TargetType.toJson)),
    ("imports", .strings g.imports)]

def text (g : Generation) : String :=
  g.toJson.pretty

end Generation

end QueryTyping
