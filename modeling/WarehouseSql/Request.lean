import WarehouseSql.Connection.Config
import WarehouseSql.Json.Parser
import WarehouseSql.Query.Change
import WarehouseSql.Query.Json
import WarehouseSql.Template.Inline

/-!
Requests: a query together with what is to be done with it, as it is written in a description file, and the lines of
SQL that carry it out.
-/

namespace WarehouseSql

/-- An operation on a query. -/
inductive Request where
  | select (query : Query)
  | insert (query : Query) (rows : List RowValues)
  | insertOrIgnore (query : Query) (rows : List RowValues)
  | insertGetId (query : Query) (values : RowValues) (sequence : Option String)
  | upsert (query : Query) (rows : List RowValues) (uniqueBy : List String)
      (assignments : List UpsertAssignment)
  | update (query : Query) (values : RowValues)
  | delete (query : Query)
  | truncate (query : Query)

namespace Request

/-! ### reading -/

/-- A request that consists of a query only. -/
def queryOfContents? (contents : Json) : Option Query := do
  let fields ← contents.fields? ["query"]
  fields.required "query" fun v _ => Query.ofJson? .held v

/-- A query and the rows to be inserted, none by default. -/
def insertOfContents? (contents : Json) : Option (Query × List RowValues) := do
  let fields ← contents.fields? ["query", "rows"]
  let query ← fields.required "query" fun v _ => Query.ofJson? .held v
  let rows ← fields.withDefault "rows" [] fun v _ => rowsOfJson? v
  some (query, rows)

def insertGetIdOfContents? (contents : Json) : Option Request := do
  let fields ← contents.fields? ["query", "values", "sequence"]
  let query ← fields.required "query" fun v _ => Query.ofJson? .held v
  let values ← fields.required "values" fun v _ => rowValuesOfJson? v
  let sequence ← fields.nullable "sequence" fun v _ => v.asText?
  some (.insertGetId query values sequence)

def upsertOfContents? (contents : Json) : Option Request := do
  let fields ← contents.fields? ["query", "rows", "unique_by", "update"]
  let query ← fields.required "query" fun v _ => Query.ofJson? .held v
  let rows ← fields.required "rows" fun v _ => rowsOfJson? v
  let uniqueBy ← fields.required "unique_by" fun v _ => v.asTexts?
  let assignments ← fields.withDefault "update" [] fun v _ => v.asList? UpsertAssignment.ofJson?
  some (.upsert query rows uniqueBy assignments)

def updateOfContents? (contents : Json) : Option Request := do
  let fields ← contents.fields? ["query", "values"]
  let query ← fields.required "query" fun v _ => Query.ofJson? .held v
  let values ← fields.required "values" fun v _ => rowValuesOfJson? v
  some (.update query values)

/-- A request from JSON, by the operation that it names. -/
def ofJson? (j : Json) : Option Request := do
  let (operation, contents) ← j.tagged? "operation"
  match operation with
  | "select" => (queryOfContents? contents).map .select
  | "insert" => (insertOfContents? contents).map fun parts => .insert parts.1 parts.2
  | "insert_or_ignore" => (insertOfContents? contents).map fun parts => .insertOrIgnore parts.1 parts.2
  | "insert_get_id" => insertGetIdOfContents? contents
  | "upsert" => upsertOfContents? contents
  | "update" => updateOfContents? contents
  | "delete" => (queryOfContents? contents).map .delete
  | "truncate" => (queryOfContents? contents).map .truncate
  | _ => none

def parse? (text : String) : Option Request := (Json.parse? text).bind ofJson?

/-! ### compiling -/

/-- The statements that carry out a request, in order. -/
def compile (c : ConnectionConfig) : Request → Compiled (List Fragment)
  | .select query => do return [← c.queryDialect.select query]
  | .insert query rows => do return [← c.queryDialect.insert query rows]
  | .insertOrIgnore query rows => do return [← c.queryDialect.insertOrIgnore query rows]
  | .insertGetId query values sequence => do
    let inserted ← c.queryDialect.insert query [values]
    let table ← c.queryDialect.target query
    return [inserted, .text (c.options.idLookup.query table sequence)]
  | .upsert query rows uniqueBy assignments => do
    return [← c.queryDialect.upsert query rows uniqueBy assignments]
  | .update query values => do return [← c.queryDialect.update query values]
  | .delete query => do return [← c.queryDialect.delete query]
  | .truncate query => do return [← c.queryDialect.truncate query]

end Request

/-! ### lines of SQL -/

/-- Why a request has no lines. -/
inductive RenderError where
  | grammar (error : GrammarError)
  | inline (sql : String) (error : StatementError)
deriving DecidableEq

def RenderError.kind : RenderError → String
  | .grammar error => error.kind
  | .inline _ error => error.kind

def RenderError.message : RenderError → String
  | .grammar error => error.message
  | .inline sql error => "cannot inline bindings into `" ++ sql ++ "`: " ++ error.message

/-- A statement as a line, its bindings in a comment. -/
def Fragment.plainLine (statement : Fragment) : String :=
  if statement.bindings.isEmpty then statement.sql ++ ";"
  else
    statement.sql ++ "; -- bindings: " ++ (Json.list (statement.bindings.map Value.toJson)).print

/-- A statement as a line, its bindings inlined. -/
def Fragment.literalLine (statement : Fragment) : Except RenderError String :=
  match interpolate statement.sql statement.bindings with
  | .ok sql => .ok (sql ++ ";")
  | .error error => .error (.inline statement.sql error)

namespace Request

def statements (c : ConnectionConfig) (request : Request) : Except RenderError (List Fragment) :=
  match request.compile c with
  | .ok statements => .ok statements
  | .error error => .error (.grammar error)

/-- The lines of a request with bindings in comments. -/
def plainLines (c : ConnectionConfig) (request : Request) : Except RenderError (List String) := do
  return (← request.statements c).map Fragment.plainLine

/-- The lines of a request with bindings inlined. -/
def literalLines (c : ConnectionConfig) (request : Request) : Except RenderError (List String) := do
  (← request.statements c).mapM Fragment.literalLine

end Request

end WarehouseSql
