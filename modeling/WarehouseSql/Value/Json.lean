import WarehouseSql.Json.Fields
import WarehouseSql.Json.Printer

/-!
Values, operands and references in JSON.  A value is written as itself; an operand or a reference that is raw SQL
is an object with the member `raw`.
-/

namespace WarehouseSql

namespace Value

/-- A value as JSON; numbers that JSON lacks become null. -/
def toJson : Value → Json
  | .null => .null
  | .bool flag => .bool flag
  | .int number => .int number.toInt
  | .float number => Json.ofBinary64 number
  | .text content => .text content

/-- A value from JSON; an integer beyond 64 signed bits is taken as a double. -/
def ofJson? : Json → Option Value
  | .null => some .null
  | .bool flag => some (.bool flag)
  | .int number =>
    match int64OfInt? number with
    | some number => some (.int number)
    | none => some (.float (Binary64.ofInt number))
  | .float number => some (.float number)
  | .text content => some (.text content)
  | _ => none

end Value

def BindType.ofJson? : Json → Option BindType :=
  Json.asChoice? .direct
    [("text", .text), ("integer", .integer), ("float", .float), ("boolean", .boolean), ("null", .null)]

/-- The SQL of an object whose member `raw` is a text.  It is one of several ways to read a description. -/
def rawSqlOfJson? (j : Json) : Option String :=
  if j.isReadable then do
    let fields ← j.objectFields? ["raw"]
    fields.required "raw" fun j _ => j.asText?
  else none

def rawSqlToJson (sql : String) : Json := .object [("raw", .text sql)]

def Operand.toJson : Operand → Json
  | .raw sql => rawSqlToJson sql
  | .value v => v.toJson

/-- An operand from JSON; raw SQL is tried first. -/
def Operand.ofJson? (j : Json) : Option Operand :=
  match rawSqlOfJson? j with
  | some sql => some (.raw sql)
  | none => (Value.ofJson? j).map .value

end WarehouseSql
