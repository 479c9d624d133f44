import WarehouseSql.Name.Policy
import WarehouseSql.Value.Json

/-!
Policies and references in JSON.
-/

namespace WarehouseSql

def Reference.toJson : Reference → Json
  | .raw sql => rawSqlToJson sql
  | .name n => .text n

/-- A reference from JSON; raw SQL is tried first. -/
def Reference.ofJson? (j : Json) : Option Reference :=
  match rawSqlOfJson? j with
  | some sql => some (.raw sql)
  | none => j.asText?.map .name

def Policy.toJson (p : Policy) : Json :=
  .object [("case_sensitive", .bool p.caseSensitive), ("table_prefix", .text p.tablePrefix)]

def Policy.ofJson? (j : Json) : Option Policy := do
  let fields ← j.fields? ["case_sensitive", "table_prefix"]
  let caseSensitive ← fields.withDefault "case_sensitive" false fun v _ => v.asBool?
  let tablePrefix ← fields.withDefault "table_prefix" "" fun v _ => v.asText?
  some { caseSensitive, tablePrefix }

end WarehouseSql
