import WarehouseSql.Request
import WarehouseSql.Schema.Compile
import WarehouseSql.Schema.Json

/-!
The command line without its effects: what the arguments ask for, which variables of the environment count, and the
lines that answer a description.  The configuration comes from the environment and is read before all else.
-/

namespace WarehouseSql

/-- What the program is asked for. -/
inductive Invocation where
  | query (path : String) (inlined : Bool)
  | schema (path : String)
  | dataSource
deriving DecidableEq

/-- Why there are no lines. -/
inductive CommandError where
  | usage
  | environment (error : ConfigError)
  | unreadable (path : String)
  | queryDescription
  | schemaDescription
  | query (error : RenderError)
  | schema (error : GrammarError)
  | dataSource (error : ConfigError)
deriving DecidableEq

/-- A message with the cause behind it, the cause on lines of its own. -/
def causedBy (message cause : String) : String := message ++ "\n\nCaused by:\n    " ++ cause

def CommandError.message : CommandError → String
  | .usage => "usage: warehouse-sql query <file.json> [--literal] | schema <file.json> | dsn"
  | .environment error => causedBy "invalid SNOWFLAKE_* configuration" error.message
  | .unreadable path => "failed to read " ++ path
  | .queryDescription => "invalid query description"
  | .schemaDescription => "invalid schema description"
  | .query (.grammar error) => error.message
  | .query (.inline sql error) => causedBy ("cannot inline bindings into `" ++ sql ++ "`") error.message
  | .schema error => error.message
  | .dataSource error => error.message

/-- The variables of the environment that make up a configuration. -/
def environmentVariables : List String :=
  (["DSN", "ODBC_DRIVER", "DATABASE", "USERNAME", "PASSWORD", "PREFIX", "COLUMNS_CASE_SENSITIVE",
      "QUOTED_IDENTIFIERS_IGNORE_CASE", "DRIVER", "QUERY_GRAMMAR", "SCHEMA_GRAMMAR", "PROCESSOR"]
    ++ ConnectionConfig.environmentProperties.map Text.upper).map ("SNOWFLAKE_" ++ ·)

namespace Invocation

/-- What the arguments ask for. -/
def ofArguments : List String → Except CommandError Invocation
  | ["query", path] => .ok (.query path false)
  | ["query", path, "--literal"] => .ok (.query path true)
  | ["schema", path] => .ok (.schema path)
  | ["dsn"] => .ok .dataSource
  | _ => .error .usage

/-- The file whose contents are needed. -/
def path? : Invocation → Option String
  | .query path _ => some path
  | .schema path => some path
  | .dataSource => none

def queryLines (c : ConnectionConfig) (inlined : Bool) (description : String) :
    Except CommandError (List String) :=
  match Request.parse? description with
  | none => .error .queryDescription
  | some request =>
    (if inlined then request.literalLines c else request.plainLines c).mapError .query

def schemaLines (c : ConnectionConfig) (description : String) : Except CommandError (List String) :=
  match Blueprint.parse? description with
  | none => .error .schemaDescription
  | some b => (c.schemaDialect.lines b).mapError .schema

/-- The lines that answer an invocation, given the contents of its file. -/
def lines (c : ConnectionConfig) (description : String) : Invocation → Except CommandError (List String)
  | .query _ inlined => queryLines c inlined description
  | .schema _ => schemaLines c description
  | .dataSource => (c.dataSource.map fun name => [name]).mapError .dataSource

end Invocation

end WarehouseSql
