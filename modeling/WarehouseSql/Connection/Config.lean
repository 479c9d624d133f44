import WarehouseSql.Dialect
import WarehouseSql.IdLookup
import WarehouseSql.Json.Parser
import WarehouseSql.Json.Printer
import WarehouseSql.Schema.Blueprint

/-!
Connection configurations: read from JSON or from the environment, written as JSON, and turned into the data source
name that opens the connection.  Properties without a field of their own are kept as they are.
-/

namespace WarehouseSql

/-- The driver that carries the statements. -/
inductive DriverKind where
  | odbc
  | native
deriving DecidableEq

structure ConnectionOptions where
  queries : Strictness := .lenient
  schemas : Strictness := .lenient
  idLookup : IdLookup := .maxId
  skipConstraints : Bool := true
deriving DecidableEq

structure ConnectionConfig where
  driver : DriverKind := .odbc
  dsn : Option String := none
  odbcDriver : Option String := none
  database : String := ""
  username : Option String := none
  password : Option String := none
  tablePrefix : String := ""
  charset : Option String := none
  collation : Option String := none
  engine : Option String := none
  caseSensitive : Bool := false
  quotedIdentifiersIgnoreCase : Bool := false
  options : ConnectionOptions := {}
  properties : Record Json := .empty

/-- Why a configuration is of no use. -/
inductive ConfigError where
  | missingOdbcDriver
  | invalidValue (key reason : String)
deriving DecidableEq

def ConfigError.kind : ConfigError → String
  | .missingOdbcDriver => "MissingOdbcDriver"
  | .invalidValue _ _ => "InvalidValue"

def ConfigError.message : ConfigError → String
  | .missingOdbcDriver =>
    "odbc_driver must be the absolute path of the ODBC driver library when no dsn is given"
  | .invalidValue key reason => "invalid value for " ++ key ++ ": " ++ reason

/-- A lookup from the text of a configuration. -/
def IdLookup.ofConfigText (text : String) : Except ConfigError IdLookup :=
  match IdLookup.ofText text with
  | .ok lookup => .ok lookup
  | .error word => .error (.invalidValue "options.processor" ("unknown processor `" ++ word ++ "`"))

/-! ### JSON -/

def DriverKind.name : DriverKind → String
  | .odbc => "snowflake"
  | .native => "snowflake_native"

def DriverKind.ofJson? : Json → Option DriverKind :=
  Json.asChoice? .direct [("snowflake", .odbc), ("snowflake_native", .native)]

namespace ConnectionOptions

def toJson (o : ConnectionOptions) : Json :=
  .object
    [("grammar", .object [("query", .text o.queries.name), ("schema", .text o.schemas.name)]),
      ("processor", .text o.idLookup.name), ("skip_constraint_statements", .bool o.skipConstraints)]

/-- The strictness for queries and for schemas from JSON. -/
def grammarsOfJson? (j : Json) : Option (Strictness × Strictness) := do
  let fields ← j.fields? ["query", "schema"]
  let queries ← fields.withDefault "query" .lenient fun v _ => Strictness.ofJson? v
  let schemas ← fields.withDefault "schema" .lenient fun v _ => Strictness.ofJson? v
  some (queries, schemas)

def ofJson? (j : Json) : Option ConnectionOptions := do
  let fields ← j.fields? ["grammar", "processor", "skip_constraint_statements"]
  let grammars ← fields.withDefault "grammar" (.lenient, .lenient) fun v _ => grammarsOfJson? v
  let idLookup ← fields.withDefault "processor" .maxId fun v _ => IdLookup.ofJson? v
  let skipConstraints ← fields.withDefault "skip_constraint_statements" true fun v _ => v.asBool?
  some { queries := grammars.1, schemas := grammars.2, idLookup, skipConstraints }

end ConnectionOptions

namespace ConnectionConfig

def fieldNames : List String :=
  ["driver", "dsn", "odbc_driver", "database", "username", "password", "prefix", "charset", "collation",
    "engine", "case_sensitive", "quoted_identifiers_ignore_case", "options"]

/-- The members of a configuration that are fields. -/
def fieldMembers (c : ConnectionConfig) : List (String × Json) :=
  [("driver", .text c.driver.name),
    ("dsn", .ofOption .text c.dsn),
    ("odbc_driver", .ofOption .text c.odbcDriver),
    ("database", .text c.database),
    ("username", .ofOption .text c.username),
    ("password", .ofOption .text c.password),
    ("prefix", .text c.tablePrefix),
    ("charset", .ofOption .text c.charset),
    ("collation", .ofOption .text c.collation),
    ("engine", .ofOption .text c.engine),
    ("case_sensitive", .bool c.caseSensitive),
    ("quoted_identifiers_ignore_case", .bool c.quotedIdentifiersIgnoreCase),
    ("options", c.options.toJson)]

/-- A configuration as JSON, its further properties beside its fields. -/
def toJson (c : ConnectionConfig) : Json := .object (c.fieldMembers ++ c.properties.entries)

/-- The members of an object that are not fields of a configuration; they have to be readable. -/
def furtherProperties? (members : List (String × Json)) : Option (Record Json) :=
  let further := members.filter fun member => !fieldNames.contains member.1
  if Json.areReadableMembers further then
    some (.ofList (further.map fun member => (member.1, member.2.normal)))
  else none

def ofJson? (j : Json) : Option ConnectionConfig := do
  let fields ← j.objectFields? fieldNames
  let driver ← fields.withDefault "driver" .odbc fun v _ => DriverKind.ofJson? v
  let dsn ← fields.nullable "dsn" fun v _ => v.asText?
  let odbcDriver ← fields.nullable "odbc_driver" fun v _ => v.asText?
  let database ← fields.withDefault "database" "" fun v _ => v.asText?
  let username ← fields.nullable "username" fun v _ => v.asText?
  let password ← fields.nullable "password" fun v _ => v.asText?
  let tablePrefix ← fields.withDefault "prefix" "" fun v _ => v.asText?
  let charset ← fields.nullable "charset" fun v _ => v.asText?
  let collation ← fields.nullable "collation" fun v _ => v.asText?
  let engine ← fields.nullable "engine" fun v _ => v.asText?
  let caseSensitive ← fields.withDefault "case_sensitive" false fun v _ => v.asBool?
  let quotedIdentifiersIgnoreCase ←
    fields.withDefault "quoted_identifiers_ignore_case" false fun v _ => v.asBool?
  let options ← fields.withDefault "options" {} fun v _ => ConnectionOptions.ofJson? v
  let properties ← furtherProperties? fields.members
  some
    { driver, dsn, odbcDriver, database, username, password, tablePrefix, charset, collation, engine,
      caseSensitive, quotedIdentifiersIgnoreCase, options, properties }

def parse? (text : String) : Option ConnectionConfig := (Json.scan? text).bind ofJson?

/-! ### environment -/

/-- The properties that the environment may hold. -/
def environmentProperties : List String :=
  ["server", "port", "warehouse", "schema", "role", "account", "region"]

/-- A truth value in words. -/
def parseBool? (text : String) : Option Bool :=
  let word := Text.asciiLower text
  if ["1", "true", "yes", "on"].contains word then some true
  else if ["0", "false", "no", "off"].contains word then some false
  else none

/-- A variable of the environment, trimmed; a blank one does not count. -/
def setting? (lookup : String → Option String) (key : String) : Option String :=
  ((lookup ("SNOWFLAKE_" ++ key)).map Text.trim).filter (· != "")

/-- A variable that is a truth value. -/
def flag (lookup : String → Option String) (key : String) : Except ConfigError Bool :=
  match setting? lookup key with
  | none => .ok false
  | some text =>
    match parseBool? text with
    | some value => .ok value
    | none => .error (.invalidValue ("SNOWFLAKE_" ++ key) ("`" ++ text ++ "` is not a boolean"))

/-- The driver that a variable names. -/
def driverOfText (text : String) : Except ConfigError DriverKind :=
  if text = "snowflake" ∨ text = "odbc" then .ok .odbc
  else if text = "snowflake_native" ∨ text = "native" then .ok .native
  else .error (.invalidValue "SNOWFLAKE_DRIVER" ("unknown driver `" ++ text ++ "`"))

/-- The strictness that a variable names. -/
def strictnessOfText (key text : String) : Except ConfigError Strictness :=
  match Strictness.ofText text with
  | .ok strictness => .ok strictness
  | .error _ => .error (.invalidValue key ("unknown grammar `" ++ text ++ "`"))

/-- A variable read in its own way, if it is set. -/
def variableAs {α : Type} (lookup : String → Option String) (key : String) (default : α)
    (read : String → Except ConfigError α) : Except ConfigError α :=
  match setting? lookup key with
  | none => .ok default
  | some text => read text

/-- A configuration from the environment. -/
def ofEnvironment (lookup : String → Option String) : Except ConfigError ConnectionConfig := do
  let caseSensitive ← flag lookup "COLUMNS_CASE_SENSITIVE"
  let quotedIdentifiersIgnoreCase ← flag lookup "QUOTED_IDENTIFIERS_IGNORE_CASE"
  let driver ← variableAs lookup "DRIVER" .odbc driverOfText
  let queries ←
    variableAs lookup "QUERY_GRAMMAR" .lenient (strictnessOfText "SNOWFLAKE_QUERY_GRAMMAR")
  let schemas ←
    variableAs lookup "SCHEMA_GRAMMAR" .lenient (strictnessOfText "SNOWFLAKE_SCHEMA_GRAMMAR")
  let idLookup ← variableAs lookup "PROCESSOR" .maxId IdLookup.ofConfigText
  return {
    driver
    dsn := setting? lookup "DSN"
    odbcDriver := setting? lookup "ODBC_DRIVER"
    database := (setting? lookup "DATABASE").getD ""
    username := setting? lookup "USERNAME"
    password := setting? lookup "PASSWORD"
    tablePrefix := (setting? lookup "PREFIX").getD ""
    caseSensitive
    quotedIdentifiersIgnoreCase
    options := { queries, schemas, idLookup }
    properties :=
      .ofList <| environmentProperties.filterMap fun key =>
        (setting? lookup (Text.upper key)).map fun text => (key, .text text) }

/-! ### what follows from a configuration -/

def policy (c : ConnectionConfig) : Policy :=
  { caseSensitive := c.caseSensitive, tablePrefix := c.tablePrefix }

/-- The defaults for create-table statements. -/
def tableDefaults (c : ConnectionConfig) : TableDefaults :=
  { charset := c.charset, collation := c.collation, engine := c.engine }

def queryDialect (c : ConnectionConfig) : Dialect := ⟨c.policy, c.options.queries⟩

def schemaDialect (c : ConnectionConfig) : SchemaDialect :=
  { policy := c.policy, strictness := c.options.schemas, defaults := c.tableDefaults }

/-- The properties that a data source name leaves out. -/
def hiddenProperties : DriverKind → List String
  | .odbc => ["driver", "odbc_driver", "dsn", "options", "username", "password", "name", "prefix"]
  | .native =>
    ["driver", "odbc_driver", "dsn", "options", "username", "password", "name", "prefix", "port", "server"]

/-- The scheme of a data source name. -/
def scheme : DriverKind → String
  | .odbc => "odbc:"
  | .native => "snowflake:"

/-- A property in a data source name; null has none. -/
def propertyPiece? (key : String) : Json → Option String
  | .null => none
  | .text content => some (key ++ "=" ++ content)
  | other => some (key ++ "=" ++ other.print)

/-- The property that loads the driver. -/
def driverPiece (c : ConnectionConfig) : Except ConfigError (List String) :=
  match c.driver with
  | .native => .ok []
  | .odbc =>
    match c.odbcDriver.filter fun path => Text.trim path != "" with
    | some path => .ok ["driver=" ++ path]
    | none => .error .missingOdbcDriver

/-- The data source name: the one configured, else one made of the properties. -/
def dataSource (c : ConnectionConfig) : Except ConfigError String :=
  let scheme := scheme c.driver
  match c.dsn.filter fun dsn => Text.trim dsn != "" with
  | some dsn => .ok (if scheme.toList.isPrefixOf dsn.toList then dsn else scheme ++ dsn)
  | none => do
    let driver ← c.driverPiece
    let database := if c.database = "" then [] else ["database=" ++ c.database]
    let further := c.properties.entries.filterMap fun property =>
      if (hiddenProperties c.driver).contains property.1 then none
      else propertyPiece? property.1 property.2
    return scheme ++ String.intercalate ";" (driver ++ database ++ further)

end ConnectionConfig

end WarehouseSql
