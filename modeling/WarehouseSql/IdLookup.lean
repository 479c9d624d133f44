import WarehouseSql.Row
import WarehouseSql.Json.Fields

/-!
Reading results: how the identifier of a freshly inserted row is recovered, and what the rows of a listing of columns
say.  The warehouse returns no identifier itself, so a second query asks for it.
-/

namespace WarehouseSql

/-- How the identifier of a fresh row is recovered: as the largest one, or from the table as the last statement
left it. -/
inductive IdLookup where
  | maxId
  | lastQuery
deriving DecidableEq

structure ColumnInfo where
  column : String
  typeName : String
  precision : Option Int64
  scale : Option Int64
deriving DecidableEq

namespace IdLookup

def name : IdLookup → String
  | .maxId => "max_id"
  | .lastQuery => "last_query_id"

def ofJson? : Json → Option IdLookup :=
  Json.asChoice? .direct [("max_id", .maxId), ("last_query_id", .lastQuery)]

/-- A lookup from free text, or the word that names none. -/
def ofText (text : String) : Except String IdLookup :=
  let word := Text.asciiLower (Text.trim text)
  if word = "max_id" ∨ word = "max" then .ok .maxId
  else if word = "last_query_id" then .ok .lastQuery
  else .error word

/-- The column that holds identifiers unless another is named. -/
def sequenceColumn (sequence : Option String) : String := sequence.getD "id"

def query (lookup : IdLookup) (table : String) (sequence : Option String) : String :=
  match lookup with
  | .maxId =>
    let column := sequenceColumn sequence
    "select max(\"" ++ column ++ "\") as \"" ++ column ++ "\" from " ++ table
  | .lastQuery => "select * from " ++ table ++ " at(statement=>last_query_id())"

/-- The identifier in the first row of the answer; null is none. -/
def extract? (lookup : IdLookup) (row : Row) (sequence : Option String) : Option Value := do
  let raw ←
    match lookup with
    | .maxId => (row.getIgnoringCase? (sequenceColumn sequence)).or row.first?
    | .lastQuery => row.first?
  if raw.isNull then none else some raw.normalizedId

end IdLookup

/-! ### listings of columns -/

def listedColumns (rows : List Row) : List String :=
  rows.filterMap fun row => ((row.getIgnoringCase? "column_name").or row.first?).map Value.display

/-- The details that the first row of a listing gives. -/
def listedColumnInfo? (rows : List Row) : Option ColumnInfo :=
  rows.head?.map fun row =>
    let text := fun name => (row.getIgnoringCase? name).map Value.display
    { column := (text "column_name").getD ""
      typeName := ((text "column_type").or (text "data_type")).getD ""
      precision := (row.getIgnoringCase? "numeric_precision").bind Value.toInteger?
      scale := (row.getIgnoringCase? "numeric_scale").bind Value.toInteger? }

end WarehouseSql
