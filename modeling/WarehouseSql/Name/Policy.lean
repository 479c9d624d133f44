import WarehouseSql.Name.Alias
import WarehouseSql.Text.Case
import WarehouseSql.Text.Pieces
import WarehouseSql.Text.Quoted

/-!
How names are written in SQL.  Under a case-sensitive policy an identifier is double-quoted and keeps its case;
otherwise it is folded to upper case and stands without quotes.  Table names carry the table prefix on their last
dotted segment.
-/

namespace WarehouseSql

/-- The identifier policy of a connection. -/
structure Policy where
  caseSensitive : Bool := false
  tablePrefix : String := ""
deriving DecidableEq

/-- A column or a table: a name to be written by the policy, or SQL to be taken as it is. -/
inductive Reference where
  | raw (sql : String)
  | name (n : String)
deriving DecidableEq

/-- Whether a reference bypasses the policy. -/
def Reference.isRaw : Reference → Bool
  | .raw _ => true
  | .name _ => false

namespace Policy

/-- A single identifier; a star stays as it is. -/
def identifier (policy : Policy) (name : String) : String :=
  if name = "*" then name
  else if policy.caseSensitive then Text.quoteIdentifier name
  else String.ofList ((Text.upper name).toList.filter (· != '"'))

/-- A string literal; a star stays as it is. -/
def stringLiteral (name : String) : String := if name = "*" then name else Text.quoteLiteral name

/-- A dotted table name with a prefix on its last segment. -/
def dottedTable (policy : Policy) (tablePrefix name : String) : String :=
  let folded := if policy.caseSensitive then name else Text.upper name
  let segments := Text.dotted folded
  String.intercalate "." <|
    segments.dropLast.map policy.identifier
      ++ [policy.identifier (tablePrefix ++ segments.getLastD "")]

/-- A table name with a given prefix, which an alias carries as well. -/
def tableWithPrefix (policy : Policy) (tablePrefix name : String) : String :=
  match _h : Name.splitAlias? name with
  | some (table, label) =>
    policy.tableWithPrefix tablePrefix table ++ " as " ++ policy.identifier (tablePrefix ++ label)
  | none => policy.dottedTable tablePrefix name
termination_by name.length
decreasing_by exact Name.length_left_of_splitAlias? _h

def table (policy : Policy) : Reference → String
  | .raw sql => sql
  | .name name => policy.tableWithPrefix policy.tablePrefix name

/-- A path of segments: the first of several is a table, the others are columns. -/
def path (policy : Policy) (segments : List String) : String :=
  match segments with
  | table :: column :: columns =>
    String.intercalate "." <|
      policy.tableWithPrefix policy.tablePrefix table :: (column :: columns).map policy.identifier
  | columns => String.intercalate "." (columns.map policy.identifier)

/-- The keys of a JSON path, without blanks and quotes around them. -/
def jsonKeys (path : List Char) : List String :=
  (Text.splitOnArrow path).map fun key =>
    let isQuote := fun c : Char => c == '"' || c == '\''
    String.ofList
      (((Text.trimChars key).dropWhile isQuote).reverse.dropWhile isQuote).reverse

/-- A JSON selector `column->key->…` as a path lookup. -/
def jsonSelector (policy : Policy) (selector : String) : String :=
  match Text.cutAtArrow selector.toList with
  | none => policy.path (Text.dotted selector)
  | some (column, path) =>
    "get_path(" ++ policy.path (Text.dotted (String.ofList column)) ++ ", "
      ++ Text.quoteLiteral (String.intercalate "." (jsonKeys path)) ++ ")"

/-- A column reference: an alias, a JSON selector or a dotted path. -/
def columnName (policy : Policy) (name : String) : String :=
  match _h : Name.splitAlias? name with
  | some (column, label) => policy.columnName column ++ " as " ++ policy.identifier label
  | none => policy.jsonSelector name
termination_by name.length
decreasing_by exact Name.length_left_of_splitAlias? _h

def column (policy : Policy) : Reference → String
  | .raw sql => sql
  | .name name => policy.columnName name

def columns (policy : Policy) (references : List Reference) : String :=
  Text.commaList (references.map policy.column)

def columnNames (policy : Policy) (names : List String) : String :=
  Text.commaList (names.map policy.columnName)

/-- A bare table name as the warehouse stores it. -/
def storedTable (policy : Policy) (name : String) : String :=
  let prefixed := policy.tablePrefix ++ name
  if policy.caseSensitive then prefixed else Text.upper prefixed

end Policy

end WarehouseSql
