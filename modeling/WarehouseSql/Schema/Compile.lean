import WarehouseSql.Schema.Column
import WarehouseSql.Text.Case

/-!
Schema changes in SQL.  A blueprint compiles to the statements of its commands, one after another; the first command
that does not compile decides the whole.
-/

namespace WarehouseSql

namespace SchemaDialect

def tableOf (d : SchemaDialect) (b : Blueprint) : String := d.policy.table (.name b.table)

def alter (d : SchemaDialect) (b : Blueprint) (action : String) : String :=
  "alter table " ++ d.tableOf b ++ " " ++ action

/-- The name that a key gets where none is given. -/
def keyName (d : SchemaDialect) (b : Blueprint) (columns : List String) (kind : String) : String :=
  let words := d.policy.tablePrefix ++ b.table ++ "_" ++ String.intercalate "_" columns ++ "_" ++ kind
  String.ofList ((Text.lower words).toList.map fun c => if c = '-' ∨ c = '.' then '_' else c)

/-- A construct that a strict dialect refuses. -/
def lenientOnly (d : SchemaDialect) (construct : String) : Compiled Unit :=
  match d.strictness with
  | .strict => .error (.indexUnsupported construct)
  | .lenient => .ok ()

/-! ### keys -/

/-- What a key is called in SQL. -/
def keyType : KeyKind → String
  | .primary => "primary key"
  | .unique => "unique"
  | .index => "index"
  | .spatial => "spatial index"

/-- What the name of a key ends in. -/
def keySuffix : KeyKind → String
  | .primary => "primary"
  | .unique => "unique"
  | .index => "index"
  | .spatial => "spatialindex"

/-- Whether a strict dialect refuses keys of a kind. -/
def requireKey (d : SchemaDialect) : KeyKind → Compiled Unit
  | .index => d.lenientOnly "index"
  | .spatial => d.lenientOnly "spatial index"
  | _ => .ok ()

def addKey (d : SchemaDialect) (b : Blueprint) (kind : KeyKind) (key : Key) : Compiled String := do
  d.requireKey kind
  if key.columns.isEmpty then throw (.keyWithoutColumns (keyType kind) b.table)
  let name := key.name.getD (d.keyName b key.columns (keySuffix kind))
  let method := (key.algorithm.map fun algorithm => " using " ++ algorithm).getD ""
  return d.alter b
    ("add constraint " ++ d.policy.identifier name ++ " " ++ keyType kind ++ method ++ " ("
      ++ d.policy.columnNames key.columns ++ ")")

/-- What may happen to rows when the row they refer to changes. -/
def actions : List String := ["cascade", "restrict", "set null", "set default", "no action"]

/-- A clause about what happens, if something is said. -/
def actionClause (event : String) : Option String → Compiled String
  | none => .ok ""
  | some text =>
    let word := Text.lower (Text.trim text)
    if actions.contains word then .ok (" on " ++ event ++ " " ++ word) else .error (.invalidAction text)

def addForeign (d : SchemaDialect) (b : Blueprint) (key : ForeignKey) : Compiled String := do
  if key.columns.isEmpty || key.references.isEmpty || key.table = "" then
    throw (.incompleteForeignKey b.table)
  let name := key.name.getD (d.keyName b key.columns "foreign")
  let deletion ← actionClause "delete" key.onDelete
  let update ← actionClause "update" key.onUpdate
  return d.alter b
      ("add constraint " ++ d.policy.identifier name ++ " foreign key ("
        ++ d.policy.columnNames key.columns ++ ") references " ++ d.policy.table (.name key.table)
        ++ " (" ++ d.policy.columnNames key.references ++ ")")
    ++ deletion ++ update

/-! ### columns -/

/-- A suffix of a create-table statement: what the blueprint sets, else the default. -/
def suffix (write : String → String) (own default : Option String) : String :=
  ((own.or default).map write).getD ""

/-- The statement that creates the table. -/
def create (d : SchemaDialect) (b : Blueprint) : Compiled String := do
  let columns ← b.addedColumns.mapM fun column => column.compile d.policy
  if columns.isEmpty then throw (.tableWithoutColumns b.table)
  return (if b.temporary then "create temporary table " else "create table ") ++ d.tableOf b ++ " ("
    ++ Text.commaList (columns.map ColumnSql.definition) ++ ")"
    ++ suffix (" default character set " ++ ·) b.charset d.defaults.charset
    ++ suffix (fun name => " collate " ++ Text.quoteLiteral name) b.collation d.defaults.collation
    ++ suffix (" engine = " ++ ·) b.engine d.defaults.engine

def addColumns (d : SchemaDialect) (b : Blueprint) : Compiled (List String) :=
  b.addedColumns.mapM fun column => do
    return d.alter b ("add column " ++ (← column.compile d.policy).definition)

/-- The statement about null that follows the change of a column. -/
def nullabilityChange (d : SchemaDialect) (b : Blueprint) (c : ColumnSql) : Option String :=
  c.nullable?.map fun nullable =>
    d.alter b ("modify column " ++ c.name ++ (if nullable then " drop not null" else " set not null"))

/-- The statement that restarts the numbers of a column. -/
def restart (d : SchemaDialect) (b : Blueprint) (c : ColumnDefinition) : Option String :=
  if c.autoIncrement then
    c.startingValue.map fun n => d.alter b ("autoincrement start " ++ integerText n.toNat)
  else none

/-- The statements that change columns: first the definitions, then what is said about null, then restarts. -/
def changeColumns (d : SchemaDialect) (b : Blueprint) : Compiled (List String) := do
  let columns ← b.changedColumns.mapM fun column => column.compile d.policy
  return columns.map (fun c => d.alter b ("modify column " ++ c.changeDefinition))
    ++ columns.filterMap (d.nullabilityChange b)
    ++ b.changedColumns.filterMap (d.restart b)

/-! ### commands -/

def command (d : SchemaDialect) (b : Blueprint) : Command → Compiled (List String)
  | .create => do return [← d.create b]
  | .add => d.addColumns b
  | .change => d.changeColumns b
  | .dropColumns columns =>
    if columns.isEmpty then .error .dropWithoutColumns
    else
      .ok [d.alter b (Text.commaList
        (columns.map fun column => "drop column " ++ d.policy.columnName column))]
  | .renameColumn old new =>
    .ok [d.alter b ("rename column " ++ d.policy.columnName old ++ " to " ++ d.policy.columnName new)]
  | .addKey kind key => do return [← d.addKey b kind key]
  | .addForeign key => do return [← d.addForeign b key]
  | .dropPrimary => .ok [d.alter b "drop primary key"]
  | .dropUnique name => .ok [d.alter b ("drop index " ++ d.policy.identifier name)]
  | .dropIndex name => do
    d.lenientOnly "drop index"
    return [d.alter b ("drop index " ++ d.policy.identifier name)]
  | .dropSpatial name => do
    d.lenientOnly "drop index"
    return [d.alter b ("drop index " ++ d.policy.identifier name)]
  | .dropForeign name => .ok [d.alter b ("drop foreign key " ++ d.policy.identifier name)]
  | .renameIndex old new => do
    d.lenientOnly "rename index"
    return [d.alter b
      ("rename index " ++ d.policy.identifier old ++ " to " ++ d.policy.identifier new)]
  | .drop => .ok ["drop table " ++ d.tableOf b]
  | .dropIfExists => .ok ["drop table if exists " ++ d.tableOf b]
  | .rename name => .ok [d.alter b ("rename to " ++ d.policy.table (.name name))]

def commands (d : SchemaDialect) (b : Blueprint) : List Command → Compiled (List String)
  | [] => .ok []
  | first :: rest => do return (← d.command b first) ++ (← d.commands b rest)

def statements (d : SchemaDialect) (b : Blueprint) : Compiled (List String) := d.commands b b.allCommands

/-- The statements of a blueprint as lines. -/
def lines (d : SchemaDialect) (b : Blueprint) : Compiled (List String) := do
  return (← d.statements b).map (· ++ ";")

end SchemaDialect

end WarehouseSql
