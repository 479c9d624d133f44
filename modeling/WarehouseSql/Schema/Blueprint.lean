import WarehouseSql.Dialect

/-!
Descriptions of schema changes.  A blueprint names a table, defines columns and lists commands; some commands follow
from the columns and are not listed.
-/

namespace WarehouseSql

/-- Suffixes of create-table statements for blueprints that set none. -/
structure TableDefaults where
  charset : Option String := none
  collation : Option String := none
  engine : Option String := none
deriving DecidableEq

/-- How schema changes are written. -/
structure SchemaDialect extends Dialect where
  defaults : TableDefaults
deriving DecidableEq

/-! ### columns -/

inductive ColumnType where
  | char
  | string
  | text
  | mediumText
  | longText
  | bigInteger
  | integer
  | mediumInteger
  | tinyInteger
  | smallInteger
  | float
  | double
  | decimal
  | boolean
  | enum
  | set
  | json
  | jsonb
  | date
  | dateTime
  | dateTimeTz
  | time
  | timeTz
  | timestamp
  | timestampTz
  | year
  | binary
  | uuid
  | ipAddress
  | macAddress
  | geometry
  | point
  | lineString
  | polygon
  | geometryCollection
  | multiPoint
  | multiLineString
  | multiPolygon
  | computed
deriving DecidableEq

/-- The definition of a column; `nullable` tells what is said from what is left open. -/
structure ColumnDefinition where
  name : String
  type : ColumnType
  length : Option UInt32 := none
  total : Option UInt32 := none
  places : Option UInt32 := none
  precision : Option UInt32 := none
  allowed : List String := []
  nullable : Option Bool := none
  default : Option Operand := none
  autoIncrement : Bool := false
  startingValue : Option UInt64 := none
  charset : Option String := none
  collation : Option String := none
  comment : Option String := none
  after : Option String := none
  first : Bool := false
  virtualAs : Option String := none
  storedAs : Option String := none
  srid : Option UInt32 := none
  useCurrent : Bool := false
  useCurrentOnUpdate : Bool := false
  change : Bool := false
  primary : Bool := false
  unique : Bool := false
  index : Bool := false
deriving DecidableEq

/-! ### commands -/

inductive KeyKind where
  | primary
  | unique
  | index
  | spatial
deriving DecidableEq

/-- A key over columns; a name is made up where none is given. -/
structure Key where
  name : Option String := none
  columns : List String
  algorithm : Option String := none
deriving DecidableEq

/-- A reference from columns of the table to columns of another table. -/
structure ForeignKey where
  name : Option String := none
  columns : List String
  table : String := ""
  references : List String := []
  onDelete : Option String := none
  onUpdate : Option String := none
deriving DecidableEq

/-- A change of a table. -/
inductive Command where
  | create
  | add
  | change
  | dropColumns (columns : List String)
  | renameColumn (old new : String)
  | addKey (kind : KeyKind) (key : Key)
  | addForeign (key : ForeignKey)
  | dropPrimary
  | dropUnique (name : String)
  | dropIndex (name : String)
  | dropSpatial (name : String)
  | dropForeign (name : String)
  | renameIndex (old new : String)
  | drop
  | dropIfExists
  | rename (name : String)
deriving DecidableEq

/-! ### blueprints -/

/-- A table with its columns and the commands to be carried out. -/
structure Blueprint where
  table : String := ""
  temporary : Bool := false
  charset : Option String := none
  collation : Option String := none
  engine : Option String := none
  columns : List ColumnDefinition := []
  commands : List Command := []
deriving DecidableEq

namespace Blueprint

def creates (b : Blueprint) : Bool := b.commands.contains .create

/-- The columns that are new. -/
def addedColumns (b : Blueprint) : List ColumnDefinition := b.columns.filter fun column => !column.change

/-- The columns that are there already and change. -/
def changedColumns (b : Blueprint) : List ColumnDefinition := b.columns.filter fun column => column.change

/-- The keys that a column asks for by itself. -/
def impliedKeys (column : ColumnDefinition) : List Command :=
  let key : Key := { columns := [column.name] }
  (if column.primary then [.addKey .primary key] else [])
    ++ (if column.unique then [.addKey .unique key] else [])
    ++ (if column.index then [.addKey .index key] else [])

/-- All commands: changes and additions of columns first, then the listed ones, then keys of single columns. -/
def allCommands (b : Blueprint) : List Command :=
  (if b.changedColumns.isEmpty then [] else [.change])
    ++ (if b.creates || b.addedColumns.isEmpty then [] else [.add])
    ++ b.commands
    ++ b.columns.flatMap impliedKeys

def addCommand (b : Blueprint) (command : Command) : Blueprint :=
  { b with commands := b.commands ++ [command] }

def addColumn (b : Blueprint) (column : ColumnDefinition) : Blueprint :=
  { b with columns := b.columns ++ [column] }

/-- The blueprint with nullable columns for the times of creation and of the last update. -/
def addTimestamps (b : Blueprint) : Blueprint :=
  (b.addColumn { name := "created_at", type := .timestamp, nullable := some true }).addColumn
    { name := "updated_at", type := .timestamp, nullable := some true }

end Blueprint

end WarehouseSql
