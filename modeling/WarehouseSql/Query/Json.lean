import WarehouseSql.Name.Json
import WarehouseSql.Query.Basic

/-!
Queries in JSON.  Every type of the description has a writer `toJson` and a reader `ofJson?`; absent fields take
their defaults, and a condition is one object with its connective, the name of its kind and the fields of the kind.
A condition is held until its kind is known, and the queries inside it with it; a key of an order and an assignment
are tried in two ways, and are as strict about names as what comes directly.
-/

namespace WarehouseSql

/-! ### parts without queries inside -/

def Distinct.toJson : Distinct → Json
  | .off => .text "none"
  | .all => .text "all"
  | .columns names => .object [("columns", .ofTexts names)]

def Distinct.ofJson? (delivery : Json.Delivery) : Json → Option Distinct
  | .object [("columns", names)] => names.asTexts?.map .columns
  | j => j.asChoice? delivery [("none", .off), ("all", .all)]

def Aggregate.toJson (a : Aggregate) : Json :=
  .object [("function", .text a.function), ("columns", .list (a.columns.map Reference.toJson))]

def Aggregate.ofJson? (j : Json) : Option Aggregate := do
  let fields ← j.fields? ["function", "columns"]
  let function ← fields.required "function" fun j _ => j.asText?
  let columns ← fields.required "columns" fun j _ => j.asList? Reference.ofJson?
  some ⟨function, columns⟩

def Connective.toJson (c : Connective) : Json := .text c.keyword

def Connective.ofJson? (delivery : Json.Delivery) : Json → Option Connective :=
  Json.asChoice? delivery [("and", .and), ("or", .or)]

def DatePart.name : DatePart → String
  | .date => "date"
  | .day => "day"
  | .month => "month"
  | .year => "year"
  | .time => "time"

def DatePart.toJson (part : DatePart) : Json := .text part.name

def DatePart.ofJson? (delivery : Json.Delivery) : Json → Option DatePart :=
  Json.asChoice? delivery
    [("date", .date), ("day", .day), ("month", .month), ("year", .year), ("time", .time)]

def JoinKind.toJson (kind : JoinKind) : Json := .text kind.keyword

def JoinKind.ofJson? (delivery : Json.Delivery) : Json → Option JoinKind :=
  Json.asChoice? delivery [("inner", .inner), ("left", .left), ("right", .right), ("cross", .cross)]

def Direction.toJson (direction : Direction) : Json := .text direction.keyword

def Direction.ofJson? : Json → Option Direction :=
  Json.asChoice? .direct [("asc", .ascending), ("desc", .descending)]

def Lock.toJson : Lock → Json
  | .update => .text "update"
  | .shared => .text "shared"
  | .raw sql => .object [("raw", .text sql)]

def Lock.ofJson? (delivery : Json.Delivery) : Json → Option Lock
  | .object [("raw", sql)] => sql.asText?.map .raw
  | j => j.asChoice? delivery [("update", .update), ("shared", .shared)]

def Order.toJson : Order → Json
  | .raw sql => .object [("sql", .text sql)]
  | .column reference direction => .object [("column", reference.toJson), ("direction", direction.toJson)]

/-- The SQL of an object whose member `sql` is a text. -/
def Order.rawOfJson? (j : Json) : Option Order := do
  let fields ← j.objectFields? ["sql"]
  let sql ← fields.required "sql" fun j _ => j.asText?
  some (.raw sql)

/-- A column with a direction. -/
def Order.columnOfJson? (j : Json) : Option Order := do
  let fields ← j.objectFields? ["column", "direction"]
  let column ← fields.required "column" fun j _ => Reference.ofJson? j
  let direction ← fields.withDefault "direction" .ascending fun j _ => Direction.ofJson? j
  some (.column column direction)

/-- A key of an order from JSON; raw SQL is tried first. -/
def Order.ofJson? (j : Json) : Option Order :=
  if j.isReadable then (rawOfJson? j).or (columnOfJson? j) else none

/-! ### conditions on groups -/

/-- The kind of a clause: its name, or its place among the names. -/
def asKind? (names : List String) : Json → Option String
  | .text name => if names.contains name then some name else none
  | .int number => if 0 ≤ number then names[number.toNat]? else none
  | _ => none

/-- The kind that an object names in its member `type`. -/
def kindOfObject? (names : List String) (j : Json) : Option String := do
  let fields ← j.objectFields? ["boolean", "type"]
  fields.required "type" fun j _ => asKind? names j

/-- The connective that an object names, `and` by default. -/
def connectiveOfObject? (delivery : Json.Delivery) (j : Json) : Option Connective := do
  let fields ← j.objectFields? ["boolean", "type"]
  fields.withDefault "boolean" .and fun j _ => Connective.ofJson? delivery j

def comparisonMembers (column : Reference) (operator : String) (operand : Operand) : List (String × Json) :=
  [("column", column.toJson), ("operator", .text operator), ("value", operand.toJson)]

/-- A column, an operator and an operand from JSON. -/
def comparisonOfJson? (j : Json) : Option (Reference × String × Operand) := do
  let fields ← j.objectFields? ["column", "operator", "value"]
  let column ← fields.required "column" fun j _ => Reference.ofJson? j
  let operator ← fields.required "operator" fun j _ => j.asText?
  let operand ← fields.required "value" fun j _ => Operand.ofJson? j
  some (column, operator, operand)

def rangeMembers (column : Reference) (low high : Operand) (negated : Bool) : List (String × Json) :=
  [("column", column.toJson), ("min", low.toJson), ("max", high.toJson), ("not", .bool negated)]

/-- A column, two operands and whether the range is negated, from JSON. -/
def rangeOfJson? (j : Json) : Option (Reference × Operand × Operand × Bool) := do
  let fields ← j.objectFields? ["column", "min", "max", "not"]
  let column ← fields.required "column" fun j _ => Reference.ofJson? j
  let low ← fields.required "min" fun j _ => Operand.ofJson? j
  let high ← fields.required "max" fun j _ => Operand.ofJson? j
  let negated ← fields.withDefault "not" false fun j _ => j.asBool?
  some (column, low, high, negated)

def rawMembers (sql : String) (bindings : List Value) : List (String × Json) :=
  [("sql", .text sql), ("bindings", .list (bindings.map Value.toJson))]

def rawOfJson? (j : Json) : Option (String × List Value) := do
  let fields ← j.objectFields? ["sql", "bindings"]
  let sql ← fields.required "sql" fun j _ => j.asText?
  let bindings ← fields.withDefault "bindings" [] fun j _ => j.asList? Value.ofJson?
  some (sql, bindings)

def GroupCondition.members : GroupCondition → List (String × Json)
  | .compare column operator operand => ("type", .text "basic") :: comparisonMembers column operator operand
  | .between column low high negated => ("type", .text "between") :: rangeMembers column low high negated
  | .raw sql bindings => ("type", .text "raw") :: rawMembers sql bindings

def GroupCondition.kinds : List String := ["basic", "between", "raw"]

def GroupCondition.ofJson? (j : Json) : Option GroupCondition := do
  match ← kindOfObject? kinds j with
  | "basic" => (comparisonOfJson? j).map fun (column, operator, operand) => .compare column operator operand
  | "between" => (rangeOfJson? j).map fun (column, low, high, negated) => .between column low high negated
  | _ => (rawOfJson? j).map fun (sql, bindings) => .raw sql bindings

def Having.toJson (h : Having) : Json :=
  .object (("boolean", h.connective.toJson) :: h.condition.members)

def Having.ofJson? (delivery : Json.Delivery) (j : Json) : Option Having :=
  if j.isReadable then do
    let connective ← connectiveOfObject? delivery j
    let condition ← GroupCondition.ofJson? j
    some ⟨connective, condition⟩
  else none

/-! ### writing queries -/

mutual
def Condition.members : Condition → List (String × Json)
  | .compare column operator operand => ("type", .text "basic") :: comparisonMembers column operator operand
  | .compareColumns first operator second =>
    [("type", .text "column"), ("first", first.toJson), ("operator", .text operator),
      ("second", second.toJson)]
  | .among column operands negated =>
    [("type", .text "in"), ("column", column.toJson), ("values", .list (operands.map Operand.toJson)),
      ("not", .bool negated)]
  | .isNull column negated =>
    [("type", .text "null"), ("column", column.toJson), ("not", .bool negated)]
  | .between column low high negated => ("type", .text "between") :: rangeMembers column low high negated
  | .group clauses => [("type", .text "nested"), ("wheres", .list (Clause.listToJson clauses))]
  | .raw sql bindings => ("type", .text "raw") :: rawMembers sql bindings
  | .existsRow query negated =>
    [("type", .text "exists"), ("query", query.toJson), ("not", .bool negated)]
  | .amongRows column query negated =>
    [("type", .text "in_sub"), ("column", column.toJson), ("query", query.toJson),
      ("not", .bool negated)]
  | .comparePart part column operator operand =>
    ("type", .text "date") :: ("part", part.toJson) :: comparisonMembers column operator operand

/-- Condition by condition, each an object with its connective. -/
def Clause.listToJson : List Clause → List Json
  | [] => []
  | ⟨connective, condition⟩ :: clauses =>
    .object (("boolean", connective.toJson) :: condition.members) :: Clause.listToJson clauses

def Join.listToJson : List Join → List Json
  | [] => []
  | ⟨kind, table, clauses⟩ :: joins =>
    .object
        [("kind", kind.toJson), ("table", table.toJson), ("wheres", .list (Clause.listToJson clauses))]
      :: Join.listToJson joins

def Branch.listToJson : List Branch → List Json
  | [] => []
  | ⟨query, keepAll⟩ :: branches =>
    .object [("query", query.toJson), ("all", .bool keepAll)] :: Branch.listToJson branches

/-- A query as JSON, all fields written. -/
def Query.toJson : Query → Json
  | ⟨source, columns, distinct, aggregate, joins, clauses, groups, havings, orders, limit, offset, lock,
      branches, unionOrders, unionLimit, unionOffset⟩ =>
    .object
      [("from", .ofOption Reference.toJson source),
        ("columns", .list (columns.map Reference.toJson)),
        ("distinct", distinct.toJson),
        ("aggregate", .ofOption Aggregate.toJson aggregate),
        ("joins", .list (Join.listToJson joins)),
        ("wheres", .list (Clause.listToJson clauses)),
        ("groups", .list (groups.map Reference.toJson)),
        ("havings", .list (havings.map Having.toJson)),
        ("orders", .list (orders.map Order.toJson)),
        ("limit", .ofOption .ofUInt64 limit),
        ("offset", .ofOption .ofUInt64 offset),
        ("lock", .ofOption Lock.toJson lock),
        ("unions", .list (Branch.listToJson branches)),
        ("union_orders", .list (unionOrders.map Order.toJson)),
        ("union_limit", .ofOption .ofUInt64 unionLimit),
        ("union_offset", .ofOption .ofUInt64 unionOffset)]
end

/-! ### reading queries -/

namespace Condition

def kinds : List String :=
  ["basic", "column", "in", "null", "between", "nested", "raw", "exists", "in_sub", "date"]

def compareColumnsOfJson? (j : Json) : Option Condition := do
  let fields ← j.objectFields? ["first", "operator", "second"]
  let first ← fields.required "first" fun j _ => Reference.ofJson? j
  let operator ← fields.required "operator" fun j _ => j.asText?
  let second ← fields.required "second" fun j _ => Reference.ofJson? j
  some (.compareColumns first operator second)

def amongOfJson? (j : Json) : Option Condition := do
  let fields ← j.objectFields? ["column", "values", "not"]
  let column ← fields.required "column" fun j _ => Reference.ofJson? j
  let operands ← fields.required "values" fun j _ => j.asList? Operand.ofJson?
  let negated ← fields.withDefault "not" false fun j _ => j.asBool?
  some (.among column operands negated)

def isNullOfJson? (j : Json) : Option Condition := do
  let fields ← j.objectFields? ["column", "not"]
  let column ← fields.required "column" fun j _ => Reference.ofJson? j
  let negated ← fields.withDefault "not" false fun j _ => j.asBool?
  some (.isNull column negated)

def comparePartOfJson? (j : Json) : Option Condition := do
  let fields ← j.objectFields? ["part"]
  let part ← fields.required "part" fun j _ => DatePart.ofJson? .held j
  let (column, operator, operand) ← comparisonOfJson? j
  some (.comparePart part column operator operand)

end Condition

def Query.fieldNames : List String :=
  ["from", "columns", "distinct", "aggregate", "joins", "wheres", "groups", "havings", "orders", "limit",
    "offset", "lock", "unions", "union_orders", "union_limit", "union_offset"]

mutual
def Query.ofJson? (delivery : Json.Delivery) (j : Json) : Option Query := do
  let fields ← j.fields? Query.fieldNames
  let source ← fields.nullable "from" fun v _ => Reference.ofJson? v
  let columns ← fields.withDefault "columns" [] fun v _ => v.asList? Reference.ofJson?
  let distinct ← fields.withDefault "distinct" .off fun v _ => Distinct.ofJson? delivery v
  let aggregate ← fields.nullable "aggregate" fun v _ => Aggregate.ofJson? v
  let joins ← fields.withDefault "joins" [] fun v _ =>
    v.asListWith? fun item _ => Join.ofJson? delivery item
  let clauses ← fields.withDefault "wheres" [] fun v _ =>
    v.asListWith? fun item _ => Clause.ofJson? delivery item
  let groups ← fields.withDefault "groups" [] fun v _ => v.asList? Reference.ofJson?
  let havings ← fields.withDefault "havings" [] fun v _ => v.asList? (Having.ofJson? delivery)
  let orders ← fields.withDefault "orders" [] fun v _ => v.asList? Order.ofJson?
  let limit ← fields.nullable "limit" fun v _ => v.asUInt64?
  let offset ← fields.nullable "offset" fun v _ => v.asUInt64?
  let lock ← fields.nullable "lock" fun v _ => Lock.ofJson? delivery v
  let branches ← fields.withDefault "unions" [] fun v _ =>
    v.asListWith? fun item _ => Branch.ofJson? delivery item
  let unionOrders ← fields.withDefault "union_orders" [] fun v _ => v.asList? Order.ofJson?
  let unionLimit ← fields.nullable "union_limit" fun v _ => v.asUInt64?
  let unionOffset ← fields.nullable "union_offset" fun v _ => v.asUInt64?
  some ⟨source, columns, distinct, aggregate, joins, clauses, groups, havings, orders, limit, offset, lock,
    branches, unionOrders, unionLimit, unionOffset⟩
termination_by sizeOf j
decreasing_by all_goals omega

def Join.ofJson? (delivery : Json.Delivery) (j : Json) : Option Join := do
  let fields ← j.fields? ["kind", "table", "wheres"]
  let kind ← fields.withDefault "kind" .inner fun v _ => JoinKind.ofJson? delivery v
  let table ← fields.required "table" fun v _ => Reference.ofJson? v
  let clauses ← fields.withDefault "wheres" [] fun v _ =>
    v.asListWith? fun item _ => Clause.ofJson? delivery item
  some ⟨kind, table, clauses⟩
termination_by sizeOf j
decreasing_by all_goals omega

def Branch.ofJson? (delivery : Json.Delivery) (j : Json) : Option Branch := do
  let fields ← j.fields? ["query", "all"]
  let query ← fields.required "query" fun v _ => Query.ofJson? delivery v
  let keepAll ← fields.withDefault "all" false fun v _ => v.asBool?
  some ⟨query, keepAll⟩
termination_by sizeOf j
decreasing_by all_goals omega

def Clause.ofJson? (delivery : Json.Delivery) (j : Json) : Option Clause :=
  if j.isReadable then do
    let connective ← connectiveOfObject? delivery j
    let condition : Condition ←
      match ← kindOfObject? Condition.kinds j with
      | "basic" =>
        (comparisonOfJson? j).map fun (column, operator, operand) => .compare column operator operand
      | "column" => Condition.compareColumnsOfJson? j
      | "in" => Condition.amongOfJson? j
      | "null" => Condition.isNullOfJson? j
      | "between" =>
        (rangeOfJson? j).map fun (column, low, high, negated) => .between column low high negated
      | "nested" => do
        let fields ← j.objectFields? ["wheres"]
        let clauses ← fields.required "wheres" fun v _ =>
          v.asListWith? fun item _ => Clause.ofJson? .held item
        some (.group clauses)
      | "raw" => (rawOfJson? j).map fun (sql, bindings) => .raw sql bindings
      | "exists" => do
        let fields ← j.objectFields? ["query", "not"]
        let query ← fields.required "query" fun v _ => Query.ofJson? .held v
        let negated ← fields.withDefault "not" false fun v _ => v.asBool?
        some (.existsRow query negated)
      | "in_sub" => do
        let fields ← j.objectFields? ["column", "query", "not"]
        let column ← fields.required "column" fun v _ => Reference.ofJson? v
        let query ← fields.required "query" fun v _ => Query.ofJson? .held v
        let negated ← fields.withDefault "not" false fun v _ => v.asBool?
        some (.amongRows column query negated)
      | _ => Condition.comparePartOfJson? j
    some ⟨connective, condition⟩
  else none
termination_by sizeOf j
decreasing_by all_goals omega
end

/-! ### changes -/

def UpsertAssignment.toJson : UpsertAssignment → Json
  | .proposed column => .text column
  | .assign column operand => .object [("column", .text column), ("value", operand.toJson)]

/-- An explicit assignment from JSON. -/
def UpsertAssignment.assignOfJson? (j : Json) : Option UpsertAssignment := do
  let fields ← j.objectFields? ["column", "value"]
  let column ← fields.required "column" fun j _ => j.asText?
  let operand ← fields.required "value" fun j _ => Operand.ofJson? j
  some (.assign column operand)

def UpsertAssignment.ofJson? : Json → Option UpsertAssignment
  | .text column => some (.proposed column)
  | j => if j.isReadable then assignOfJson? j else none

def rowValuesOfJson? : Json → Option RowValues := Json.asRecord? Operand.ofJson?

def rowsOfJson? : Json → Option (List RowValues) := Json.asList? rowValuesOfJson?

end WarehouseSql
