import WarehouseSql.Connection.Schema

/-!
Everything that can be asked of a connection, as data: a step, and the reply to it.  A run is a list of steps; a step
may pretend further steps.
-/

namespace WarehouseSql

/-- A call on a connection. -/
inductive Step where
  | statement (sql : String) (bindings : Bindings)
  | affecting (sql : String) (bindings : Bindings)
  | select (sql : String) (bindings : Bindings)
  | selectOne (sql : String) (bindings : Bindings)
  | request (request : Request)
  | runBlueprint (blueprint : Blueprint)
  | pretend (steps : List Step)
  | isPretending
  | setLogging (logging : Bool)
  | flushLog
  | queryLog
  | prepareBindings (bindings : Bindings)
  | bindValues (sql : String) (bindings : Bindings)
  | info
  | hasTable (table : String)
  | columnListing (table : String)
  | hasColumn (table column : String)
  | hasColumns (table : String) (columns : List String)
  | columnType (table column : String)
  | tableDetails (table : String)
  | createTable (table : String) (blueprint : Blueprint)
  | alterTable (table : String) (blueprint : Blueprint)
  | dropTable (table : String)
  | dropTableIfExists (table : String)
  | renameTable (table name : String)
  | allTables
  | allViews
  | dropAllTables
  | dropAllViews
  | createDatabase (name : String)
  | dropDatabase (name : String)
  | dropDatabaseIfExists (name : String)
  | enableForeignKeys
  | disableForeignKeys

/-- The reply to a step. -/
inductive Reply where
  | done
  | flag (value : Bool)
  | count (number : Nat)
  | rows (rows : List Row)
  | row (row : Option Row)
  | value (v : Value)
  | names (names : List String)
  | column (info : Option ColumnInfo)
  | log (entries : List LoggedQuery)
  | bindings (isEmpty : Bool) (values : List Value)
  | resolution (resolution : Resolution)
  | info (database : String) (policy : Policy) (lookup : IdLookup)
  | pretended (inner : List (Except ConnectionError Reply))
      (log : Except ConnectionError (List LoggedQuery))

namespace Connection

/-- Carries a request out. -/
def carryOut (c : Connection) (request : Request) : Action Reply :=
  let d := c.config.queryDialect
  match request with
  | .select q => do
    let f ← Action.ofCompiled (d.select q)
    return .rows (← c.select f.sql (.ofValues f.bindings))
  | .insert q rows => do
    c.runFragment (← Action.ofCompiled (d.insert q rows))
    return .flag true
  | .insertOrIgnore q rows => do
    return .count (← c.countFragment (← Action.ofCompiled (d.insertOrIgnore q rows)))
  | .insertGetId q values sequence => do return .value (← c.insertGetId q values sequence)
  | .upsert q rows uniqueBy assignments => do
    return .count (← c.countFragment (← Action.ofCompiled (d.upsert q rows uniqueBy assignments)))
  | .update q values => do
    return .count (← c.countFragment (← Action.ofCompiled (d.update q values)))
  | .delete q => do return .count (← c.countFragment (← Action.ofCompiled (d.delete q)))
  | .truncate q => do
    c.runFragment (← Action.ofCompiled (d.truncate q))
    return .flag true

/-- An action without a result of its own. -/
def replying (reply : Reply) (action : Action Unit) : Action Reply := do
  action
  return reply

mutual
def perform (c : Connection) : Step → Action Reply
  | .statement sql bindings => replying (.flag true) (c.statement sql bindings)
  | .affecting sql bindings => do return .count (← c.affecting sql bindings)
  | .select sql bindings => do return .rows (← c.select sql bindings)
  | .selectOne sql bindings => do return .row (← c.selectOne sql bindings)
  | .request request => c.carryOut request
  | .runBlueprint b => replying .done (c.runBlueprint b)
  | .pretend steps => do
    let start := (← get).log.length
    let inner ← whilePretending (c.performUntilError steps)
    let log := (← get).log.drop start
    return .pretended inner <|
      match inner.getLast? with
      | some (.error error) => .error error
      | _ => .ok log
  | .isPretending => do return .flag (← get).pretending
  | .setLogging logging => replying .done (setLogging logging)
  | .flushLog => replying .done flushLog
  | .queryLog => do return .log (← get).log
  | .prepareBindings bindings => return .bindings bindings.normalized.isEmpty bindings.normalized.values
  | .bindValues sql bindings => do
    let statement ← Action.ofStatement (bindings.bindTo (c.prepare sql))
    return .resolution (← Action.ofStatement statement.resolve)
  | .info => return .info c.config.database c.config.policy c.config.options.idLookup
  | .hasTable table => do return .flag (← c.hasTable table)
  | .columnListing table => do return .names (← c.columnListing table)
  | .hasColumn table column => do return .flag (← c.hasColumn table column)
  | .hasColumns table columns => do return .flag (← c.hasColumns table columns)
  | .columnType table column => do return .column (← c.columnType table column)
  | .tableDetails table => do return .rows (← c.tableDetails table)
  | .createTable table b => replying .done (c.createTable table b)
  | .alterTable table b => replying .done (c.alterTable table b)
  | .dropTable table => replying .done (c.dropTable table)
  | .dropTableIfExists table => replying .done (c.dropTableIfExists table)
  | .renameTable table name => replying .done (c.renameTable table name)
  | .allTables => do return .names (← c.allTables)
  | .allViews => do return .names (← c.allViews)
  | .dropAllTables => replying .done c.dropAllTables
  | .dropAllViews => replying .done c.dropAllViews
  | .createDatabase name =>
    replying (.flag true) (c.statement (c.config.schemaDialect.createDatabase name) {})
  | .dropDatabase name =>
    replying (.flag true) (c.statement (c.config.schemaDialect.dropDatabase name) {})
  | .dropDatabaseIfExists name =>
    replying (.flag true) (c.statement (c.config.schemaDialect.dropDatabaseIfExists name) {})
  | .enableForeignKeys => replying (.flag true) (c.statement SchemaDialect.enableForeignKeys {})
  | .disableForeignKeys => replying (.flag true) (c.statement SchemaDialect.disableForeignKeys {})

/-- Carries steps out up to the first that fails, and gives their outcomes. -/
def performUntilError (c : Connection) : List Step → Action (List (Except ConnectionError Reply))
  | [] => return []
  | step :: steps => do
    match ← (c.perform step).attempt with
    | .error error => return [.error error]
    | .ok reply => return .ok reply :: (← c.performUntilError steps)
end

end Connection

end WarehouseSql
