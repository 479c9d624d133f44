import WarehouseSql.Schema.Blueprint
import WarehouseSql.Value.Literal

/-!
Column definitions in SQL.  A column compiles to its name, its type and a list of modifiers, so that a change of a
column picks modifiers by their kind and never searches text that has been put together already.
-/

namespace WarehouseSql

/-- A modifier in the definition of a column. -/
inductive Modifier where
  | current (sql : String)
  | charset (name : String)
  | collation (name : String)
  | virtualAs (expression : String)
  | storedAs (expression : String)
  | nullability (nullable : Bool)
  | srid (number : UInt32)
  | default (sql : String)
  | increment
  | comment (content : String)
  | after (column : String)
  | first
deriving DecidableEq

def Modifier.sql : Modifier → String
  | .current sql => sql
  | .charset name => "character set " ++ name
  | .collation name => "collate " ++ Text.quoteLiteral name
  | .virtualAs expression => "as (" ++ expression ++ ")"
  | .storedAs expression => "as (" ++ expression ++ ") stored"
  | .nullability true => "null"
  | .nullability false => "not null"
  | .srid number => "srid " ++ integerText number.toNat
  | .default sql => "default " ++ sql
  | .increment => "autoincrement primary key"
  | .comment content => "comment " ++ Text.quoteLiteral content
  | .after column => "after " ++ column
  | .first => "first"

structure ColumnSql where
  name : String
  type : String
  modifiers : List Modifier
deriving DecidableEq

namespace ColumnDefinition

/-! ### types -/

/-- A count that is there and not zero. -/
def positive (n : Option UInt32) : Option UInt32 := n.filter (· != 0)

def countText (n : UInt32) : String := integerText n.toNat

/-- A type with the precision of the column, if it has one. -/
def withPrecision (c : ColumnDefinition) (type : String) : String :=
  match positive c.precision with
  | some p => type ++ "(" ++ countText p ++ ")"
  | none => type

/-- A type with both sizes of the column, if it has both. -/
def withSizes (c : ColumnDefinition) (type : String) : String :=
  match positive c.total, positive c.places with
  | some total, some places => type ++ "(" ++ countText total ++ ", " ++ countText places ++ ")"
  | _, _ => type

def withLength (c : ColumnDefinition) (type : String) : String :=
  type ++ "(" ++ countText (c.length.getD 255) ++ ")"

def withAllowed (c : ColumnDefinition) (type : String) : String :=
  type ++ "(" ++ Text.commaList (c.allowed.map Text.quoteLiteral) ++ ")"

def sqlType (c : ColumnDefinition) : Compiled String :=
  match c.type with
  | .char => .ok (c.withLength "char")
  | .string => .ok (c.withLength "varchar")
  | .text => .ok "text"
  | .mediumText => .ok "mediumtext"
  | .longText => .ok "longtext"
  | .bigInteger => .ok "bigint"
  | .integer => .ok "int"
  | .mediumInteger => .ok "smallint"
  | .smallInteger => .ok "smallint"
  | .tinyInteger => .ok "tinyint"
  | .float => .ok (c.withSizes "float")
  | .double => .ok (c.withSizes "double")
  | .decimal =>
    .ok ("decimal(" ++ countText (c.total.getD 8) ++ ", " ++ countText (c.places.getD 2) ++ ")")
  | .boolean => .ok "boolean"
  | .enum => .ok (c.withAllowed "enum")
  | .set => .ok (c.withAllowed "set")
  | .json => .ok "object"
  | .jsonb => .ok "object"
  | .date => .ok "date"
  | .dateTime => .ok (c.withPrecision "datetime")
  | .dateTimeTz => .ok (c.withPrecision "datetime")
  | .time => .ok (c.withPrecision "time")
  | .timeTz => .ok (c.withPrecision "time")
  | .timestamp => .ok (c.withPrecision "timestamp")
  | .timestampTz => .ok (c.withPrecision "timestamp")
  | .year => .ok "year"
  | .binary => .ok "blob"
  | .uuid => .ok "char(36)"
  | .ipAddress => .ok "varchar(45)"
  | .macAddress => .ok "varchar(17)"
  | .geometry => .ok "geometry"
  | .point => .ok "point"
  | .lineString => .ok "linestring"
  | .polygon => .ok "polygon"
  | .geometryCollection => .ok "geometrycollection"
  | .multiPoint => .ok "multipoint"
  | .multiLineString => .ok "multilinestring"
  | .multiPolygon => .ok "multipolygon"
  | .computed => .error (.computedType c.name)

/-! ### modifiers -/

/-- Whether the column follows the current time by itself, and how. -/
def currentModifiers (c : ColumnDefinition) : List Modifier :=
  match c.type with
  | .dateTime | .dateTimeTz => if c.useCurrent then [.current "default CURRENT_TIMESTAMP"] else []
  | .timestamp | .timestampTz =>
    let current := c.withPrecision "CURRENT_TIMESTAMP"
    let parts :=
      (if c.useCurrent then ["default " ++ current] else [])
        ++ (if c.useCurrentOnUpdate then ["on update " ++ current] else [])
    if parts.isEmpty then [] else [.current (String.intercalate " " parts)]
  | _ => []

/-- Whether the values of the column are computed. -/
def isGenerated (c : ColumnDefinition) : Bool := c.virtualAs.isSome || c.storedAs.isSome

/-- What is said about null: a generated column says something only if told to refuse it. -/
def nullability (c : ColumnDefinition) : List Modifier :=
  match c.isGenerated, c.nullable with
  | false, some true => [.nullability true]
  | false, _ => [.nullability false]
  | true, some false => [.nullability false]
  | true, _ => []

/-- The SQL of a default value; null is none. -/
def defaultSql? (type : ColumnType) : Operand → Option String
  | .raw sql => some sql
  | .value .null => none
  | .value (.bool flag) => some (booleanKeyword flag)
  | .value v =>
    if type = .boolean then some (booleanKeyword v.truthy)
    else
      match v with
      | .text content =>
        some (if isNumeral content then Text.trim content else Text.quoteLiteral content)
      | number => some number.display

/-- Whether the type may count up by itself. -/
def isSerial (type : ColumnType) : Bool := [.bigInteger, .integer, .smallInteger].contains type

/-- The modifiers of a column in their fixed order. -/
def modifiers (c : ColumnDefinition) (policy : Policy) : List Modifier :=
  c.currentModifiers
    ++ (c.charset.map .charset).toList
    ++ (c.collation.map .collation).toList
    ++ (c.virtualAs.map .virtualAs).toList
    ++ (c.storedAs.map .storedAs).toList
    ++ c.nullability
    ++ ((positive c.srid).map .srid).toList
    ++ ((c.default.bind (defaultSql? c.type)).map .default).toList
    ++ (if isSerial c.type && c.autoIncrement then [.increment] else [])
    ++ (c.comment.map .comment).toList
    ++ (c.after.map fun column => .after (policy.columnName column)).toList
    ++ (if c.first then [.first] else [])

def compile (c : ColumnDefinition) (policy : Policy) : Compiled ColumnSql := do
  let type ← c.sqlType
  return { name := policy.identifier c.name, type, modifiers := c.modifiers policy }

end ColumnDefinition

/-! ### definitions -/

namespace ColumnSql

/-- The definition with some of the modifiers. -/
def write (c : ColumnSql) (keep : Modifier → Bool) : String :=
  String.intercalate " " (c.name :: c.type :: (c.modifiers.filter keep).map Modifier.sql)

/-- The definition of a new column, which may hold null unless told otherwise. -/
def definition (c : ColumnSql) : String := c.write (· != .nullability true)

/-- Whether a change of a column keeps a modifier: nothing about null and increments, and a default only if it
takes the next value of a sequence. -/
def keptInChange : Modifier → Bool
  | .nullability _ => false
  | .increment => false
  | .current sql => Text.contains ".nextval".toList sql.toList
  | .default sql => Text.contains ".nextval".toList sql.toList
  | _ => true

def changeDefinition (c : ColumnSql) : String := c.write keptInChange

/-- Whether the column may hold null, if anything is said about it. -/
def nullable? (c : ColumnSql) : Option Bool :=
  c.modifiers.findSome? fun
    | .nullability nullable => some nullable
    | _ => none

end ColumnSql

end WarehouseSql
