import WarehouseSql.Json.Parser
import WarehouseSql.Name.Json
import WarehouseSql.Schema.Blueprint

/-!
Schema changes in JSON.  A command is an object that names itself in its member `name` and holds its own fields
beside it.
-/

namespace WarehouseSql

namespace TableDefaults

def toJson (t : TableDefaults) : Json :=
  .object
    [("charset", .ofOption .text t.charset), ("collation", .ofOption .text t.collation),
      ("engine", .ofOption .text t.engine)]

def ofJson? (j : Json) : Option TableDefaults := do
  let fields ← j.fields? ["charset", "collation", "engine"]
  let charset ← fields.nullable "charset" fun v _ => v.asText?
  let collation ← fields.nullable "collation" fun v _ => v.asText?
  let engine ← fields.nullable "engine" fun v _ => v.asText?
  some { charset, collation, engine }

end TableDefaults

/-! ### columns -/

namespace ColumnType

/-- The types by name. -/
def byName : List (String × ColumnType) :=
  [("char", .char), ("string", .string), ("text", .text), ("mediumText", .mediumText),
    ("longText", .longText), ("bigInteger", .bigInteger), ("integer", .integer),
    ("mediumInteger", .mediumInteger), ("tinyInteger", .tinyInteger), ("smallInteger", .smallInteger),
    ("float", .float), ("double", .double), ("decimal", .decimal), ("boolean", .boolean), ("enum", .enum),
    ("set", .set), ("json", .json), ("jsonb", .jsonb), ("date", .date), ("dateTime", .dateTime),
    ("dateTimeTz", .dateTimeTz), ("time", .time), ("timeTz", .timeTz), ("timestamp", .timestamp),
    ("timestampTz", .timestampTz), ("year", .year), ("binary", .binary), ("uuid", .uuid),
    ("ipAddress", .ipAddress), ("macAddress", .macAddress), ("geometry", .geometry), ("point", .point),
    ("lineString", .lineString), ("polygon", .polygon), ("geometryCollection", .geometryCollection),
    ("multiPoint", .multiPoint), ("multiLineString", .multiLineString), ("multiPolygon", .multiPolygon),
    ("computed", .computed)]

def name (type : ColumnType) : String :=
  ((byName.find? fun entry => entry.2 == type).map Prod.fst).getD ""

def ofJson? : Json → Option ColumnType := Json.asChoice? .direct byName

end ColumnType

namespace ColumnDefinition

def fieldNames : List String :=
  ["name", "type", "length", "total", "places", "precision", "allowed", "nullable", "default",
    "auto_increment", "starting_value", "charset", "collation", "comment", "after", "first", "virtual_as",
    "stored_as", "srid", "use_current", "use_current_on_update", "change", "primary", "unique", "index"]

/-- A column as JSON, all fields written. -/
def toJson (c : ColumnDefinition) : Json :=
  .object
    [("name", .text c.name),
      ("type", .text c.type.name),
      ("length", .ofOption .ofUInt32 c.length),
      ("total", .ofOption .ofUInt32 c.total),
      ("places", .ofOption .ofUInt32 c.places),
      ("precision", .ofOption .ofUInt32 c.precision),
      ("allowed", .ofTexts c.allowed),
      ("nullable", .ofOption .bool c.nullable),
      ("default", .ofOption Operand.toJson c.default),
      ("auto_increment", .bool c.autoIncrement),
      ("starting_value", .ofOption .ofUInt64 c.startingValue),
      ("charset", .ofOption .text c.charset),
      ("collation", .ofOption .text c.collation),
      ("comment", .ofOption .text c.comment),
      ("after", .ofOption .text c.after),
      ("first", .bool c.first),
      ("virtual_as", .ofOption .text c.virtualAs),
      ("stored_as", .ofOption .text c.storedAs),
      ("srid", .ofOption .ofUInt32 c.srid),
      ("use_current", .bool c.useCurrent),
      ("use_current_on_update", .bool c.useCurrentOnUpdate),
      ("change", .bool c.change),
      ("primary", .bool c.primary),
      ("unique", .bool c.unique),
      ("index", .bool c.index)]

def ofJson? (j : Json) : Option ColumnDefinition := do
  let fields ← j.fields? fieldNames
  let name ← fields.required "name" fun v _ => v.asText?
  let type ← fields.required "type" fun v _ => ColumnType.ofJson? v
  let length ← fields.nullable "length" fun v _ => v.asUInt32?
  let total ← fields.nullable "total" fun v _ => v.asUInt32?
  let places ← fields.nullable "places" fun v _ => v.asUInt32?
  let precision ← fields.nullable "precision" fun v _ => v.asUInt32?
  let allowed ← fields.withDefault "allowed" [] fun v _ => v.asTexts?
  let nullable ← fields.nullable "nullable" fun v _ => v.asBool?
  let default ← fields.nullable "default" fun v _ => Operand.ofJson? v
  let autoIncrement ← fields.withDefault "auto_increment" false fun v _ => v.asBool?
  let startingValue ← fields.nullable "starting_value" fun v _ => v.asUInt64?
  let charset ← fields.nullable "charset" fun v _ => v.asText?
  let collation ← fields.nullable "collation" fun v _ => v.asText?
  let comment ← fields.nullable "comment" fun v _ => v.asText?
  let after ← fields.nullable "after" fun v _ => v.asText?
  let first ← fields.withDefault "first" false fun v _ => v.asBool?
  let virtualAs ← fields.nullable "virtual_as" fun v _ => v.asText?
  let storedAs ← fields.nullable "stored_as" fun v _ => v.asText?
  let srid ← fields.nullable "srid" fun v _ => v.asUInt32?
  let useCurrent ← fields.withDefault "use_current" false fun v _ => v.asBool?
  let useCurrentOnUpdate ← fields.withDefault "use_current_on_update" false fun v _ => v.asBool?
  let change ← fields.withDefault "change" false fun v _ => v.asBool?
  let primary ← fields.withDefault "primary" false fun v _ => v.asBool?
  let unique ← fields.withDefault "unique" false fun v _ => v.asBool?
  let index ← fields.withDefault "index" false fun v _ => v.asBool?
  some
    { name, type, length, total, places, precision, allowed, nullable, default, autoIncrement,
      startingValue, charset, collation, comment, after, first, virtualAs, storedAs, srid, useCurrent,
      useCurrentOnUpdate, change, primary, unique, index }

end ColumnDefinition

/-! ### commands -/

/-- The name under which a key of a kind is added. -/
def KeyKind.commandName : KeyKind → String
  | .primary => "primary"
  | .unique => "unique"
  | .index => "index"
  | .spatial => "spatial_index"

def Key.members (key : Key) : List (String × Json) :=
  [("index", .ofOption .text key.name), ("columns", .ofTexts key.columns),
    ("algorithm", .ofOption .text key.algorithm)]

/-- A key from the contents of a command. -/
def Key.ofContents? (j : Json) : Option Key := do
  let fields ← j.fields? ["index", "columns", "algorithm"]
  let name ← fields.nullable "index" fun v _ => v.asText?
  let columns ← fields.required "columns" fun v _ => v.asTexts?
  let algorithm ← fields.nullable "algorithm" fun v _ => v.asText?
  some { name, columns, algorithm }

def ForeignKey.members (key : ForeignKey) : List (String × Json) :=
  [("index", .ofOption .text key.name), ("columns", .ofTexts key.columns), ("on", .text key.table),
    ("references", .ofTexts key.references), ("on_delete", .ofOption .text key.onDelete),
    ("on_update", .ofOption .text key.onUpdate)]

/-- A foreign key from the contents of a command. -/
def ForeignKey.ofContents? (j : Json) : Option ForeignKey := do
  let fields ← j.fields? ["index", "columns", "on", "references", "on_delete", "on_update"]
  let name ← fields.nullable "index" fun v _ => v.asText?
  let columns ← fields.required "columns" fun v _ => v.asTexts?
  let table ← fields.required "on" fun v _ => v.asText?
  let references ← fields.required "references" fun v _ => v.asTexts?
  let onDelete ← fields.nullable "on_delete" fun v _ => v.asText?
  let onUpdate ← fields.nullable "on_update" fun v _ => v.asText?
  some { name, columns, table, references, onDelete, onUpdate }

namespace Command

def toJson : Command → Json
  | .create => .object [("name", .text "create")]
  | .add => .object [("name", .text "add")]
  | .change => .object [("name", .text "change")]
  | .dropColumns columns => .object [("name", .text "drop_column"), ("columns", .ofTexts columns)]
  | .renameColumn old new =>
    .object [("name", .text "rename_column"), ("from", .text old), ("to", .text new)]
  | .addKey kind key => .object (("name", .text kind.commandName) :: key.members)
  | .addForeign key => .object (("name", .text "foreign") :: key.members)
  | .dropPrimary => .object [("name", .text "drop_primary")]
  | .dropUnique name => .object [("name", .text "drop_unique"), ("index", .text name)]
  | .dropIndex name => .object [("name", .text "drop_index"), ("index", .text name)]
  | .dropSpatial name => .object [("name", .text "drop_spatial_index"), ("index", .text name)]
  | .dropForeign name => .object [("name", .text "drop_foreign"), ("index", .text name)]
  | .renameIndex old new =>
    .object [("name", .text "rename_index"), ("from", .text old), ("to", .text new)]
  | .drop => .object [("name", .text "drop")]
  | .dropIfExists => .object [("name", .text "drop_if_exists")]
  | .rename name => .object [("name", .text "rename"), ("to", .text name)]

/-- A command without fields; other members are passed over. -/
def bare? (command : Command) : Json → Option Command
  | .object _ => some command
  | .list [] => some command
  | _ => none

/-- The only field of a command. -/
def onlyField? {α : Type} (name : String) (read : Json → Option α) (contents : Json) : Option α := do
  let fields ← contents.fields? [name]
  fields.required name fun v _ => read v

/-- The old and the new name in a renaming. -/
def renaming? (contents : Json) : Option (String × String) := do
  let fields ← contents.fields? ["from", "to"]
  let old ← fields.required "from" fun v _ => v.asText?
  let new ← fields.required "to" fun v _ => v.asText?
  some (old, new)

def ofJson? (j : Json) : Option Command := do
  let (name, contents) ← j.tagged? "name"
  match name with
  | "create" => bare? .create contents
  | "add" => bare? .add contents
  | "change" => bare? .change contents
  | "drop_column" => (onlyField? "columns" Json.asTexts? contents).map .dropColumns
  | "rename_column" => (renaming? contents).map fun names => .renameColumn names.1 names.2
  | "primary" => (Key.ofContents? contents).map (.addKey .primary)
  | "unique" => (Key.ofContents? contents).map (.addKey .unique)
  | "index" => (Key.ofContents? contents).map (.addKey .index)
  | "spatial_index" => (Key.ofContents? contents).map (.addKey .spatial)
  | "foreign" => (ForeignKey.ofContents? contents).map .addForeign
  | "drop_primary" => bare? .dropPrimary contents
  | "drop_unique" => (onlyField? "index" Json.asText? contents).map .dropUnique
  | "drop_index" => (onlyField? "index" Json.asText? contents).map .dropIndex
  | "drop_spatial_index" => (onlyField? "index" Json.asText? contents).map .dropSpatial
  | "drop_foreign" => (onlyField? "index" Json.asText? contents).map .dropForeign
  | "rename_index" => (renaming? contents).map fun names => .renameIndex names.1 names.2
  | "drop" => bare? .drop contents
  | "drop_if_exists" => bare? .dropIfExists contents
  | "rename" => (onlyField? "to" Json.asText? contents).map .rename
  | _ => none

end Command

/-! ### blueprints -/

namespace Blueprint

def fieldNames : List String :=
  ["table", "temporary", "charset", "collation", "engine", "columns", "commands"]

/-- A blueprint as JSON, all fields written. -/
def toJson (b : Blueprint) : Json :=
  .object
    [("table", .text b.table),
      ("temporary", .bool b.temporary),
      ("charset", .ofOption .text b.charset),
      ("collation", .ofOption .text b.collation),
      ("engine", .ofOption .text b.engine),
      ("columns", .list (b.columns.map ColumnDefinition.toJson)),
      ("commands", .list (b.commands.map Command.toJson))]

def ofJson? (j : Json) : Option Blueprint := do
  let fields ← j.fields? fieldNames
  let table ← fields.withDefault "table" "" fun v _ => v.asText?
  let temporary ← fields.withDefault "temporary" false fun v _ => v.asBool?
  let charset ← fields.nullable "charset" fun v _ => v.asText?
  let collation ← fields.nullable "collation" fun v _ => v.asText?
  let engine ← fields.nullable "engine" fun v _ => v.asText?
  let columns ← fields.withDefault "columns" [] fun v _ => v.asList? ColumnDefinition.ofJson?
  let commands ← fields.withDefault "commands" [] fun v _ => v.asList? Command.ofJson?
  some { table, temporary, charset, collation, engine, columns, commands }

def parse? (text : String) : Option Blueprint := (Json.scan? text).bind ofJson?

end Blueprint

end WarehouseSql
