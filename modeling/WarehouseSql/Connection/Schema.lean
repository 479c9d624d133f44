import WarehouseSql.Connection.Basic
import WarehouseSql.Schema.Catalog

/-!
Looking a schema up and changing it over a connection.  Tables are looked up by the name under which the warehouse
stores them.
-/

namespace WarehouseSql

namespace Connection

def databaseValue (c : Connection) : Value := .text c.config.database

def storedTable (c : Connection) (table : String) : Value := .text (c.config.policy.storedTable table)

def storedColumn (c : Connection) (column : String) : Value :=
  .text (if c.config.caseSensitive then column else Text.upper column)

/-! ### looking up -/

def hasTable (c : Connection) (table : String) : Action Bool := do
  let rows ←
    c.select SchemaDialect.tableExists (.ofValues [c.databaseValue, c.storedTable table])
  return !rows.isEmpty

def columnListing (c : Connection) (table : String) : Action (List String) := do
  let rows ←
    c.select (SchemaDialect.columnListing c.config.database)
      (.ofValues [c.databaseValue, c.storedTable table])
  return listedColumns rows

/-- Whether a listing holds a column, the case of ASCII letters aside. -/
def holdsColumn (listing : List String) (column : String) : Bool :=
  listing.any fun existing => Text.asciiLower existing == Text.asciiLower column

def hasColumn (c : Connection) (table column : String) : Action Bool := do
  return holdsColumn (← c.columnListing table) column

def hasColumns (c : Connection) (table : String) (columns : List String) : Action Bool := do
  return columns.all (holdsColumn (← c.columnListing table))

def columnType (c : Connection) (table column : String) : Action (Option ColumnInfo) := do
  let rows ←
    c.select (SchemaDialect.columnType c.config.database)
      (.ofValues [c.storedTable table, c.storedColumn column])
  return listedColumnInfo? rows

def tableDetails (c : Connection) (table : String) : Action (List Row) :=
  c.select (SchemaDialect.tableDetails (c.config.policy.storedTable table)) {}

def objectNames (rows : List Row) : List String :=
  rows.filterMap fun row => ((row.getIgnoringCase? "name").or row.first?).map Value.display

def allTables (c : Connection) : Action (List String) := do
  return objectNames (← c.select SchemaDialect.allTables {})

def allViews (c : Connection) : Action (List String) := do
  return objectNames (← c.select SchemaDialect.allViews {})

/-! ### changing -/

/-- Creates a table from the columns and commands of a blueprint; its character set, collation and engine are left
out. -/
def createTable (c : Connection) (table : String) (b : Blueprint) : Action Unit :=
  c.runBlueprint
    { table, temporary := b.temporary, columns := b.columns, commands := .create :: b.commands }

/-- Changes a table by the columns and commands of a blueprint. -/
def alterTable (c : Connection) (table : String) (b : Blueprint) : Action Unit :=
  c.runBlueprint { table, temporary := b.temporary, columns := b.columns, commands := b.commands }

def dropTable (c : Connection) (table : String) : Action Unit :=
  c.alterTable table { commands := [.drop] }

/-- Drops a table that may be missing. -/
def dropTableIfExists (c : Connection) (table : String) : Action Unit :=
  c.alterTable table { commands := [.dropIfExists] }

def renameTable (c : Connection) (table name : String) : Action Unit :=
  c.alterTable table { commands := [.rename name] }

/-- Drops all tables while foreign keys are not checked. -/
def dropAllTables (c : Connection) : Action Unit := do
  let tables ← c.allTables
  if tables.isEmpty then return
  c.statement SchemaDialect.disableForeignKeys {}
  c.statement (c.config.schemaDialect.dropTables tables) {}
  c.statement SchemaDialect.enableForeignKeys {}

def dropAllViews (c : Connection) : Action Unit := do
  let views ← c.allViews
  if views.isEmpty then return
  c.statement (c.config.schemaDialect.dropViews views) {}

end Connection

end WarehouseSql
