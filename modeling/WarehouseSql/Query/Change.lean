import WarehouseSql.Json.Path
import WarehouseSql.Json.Printer
import WarehouseSql.Query.Select
import WarehouseSql.Value.Json

/-!
Changing rows: insert, upsert, update, delete and truncate.  A change of a joined or limited query goes through a
sub-select of row identifiers; values for JSON paths of one column are merged into one assignment.
-/

namespace WarehouseSql

namespace Dialect

/-- The column that identifies a row. -/
def rowId : String := "rowid"

/-- The table that a change applies to. -/
def target (d : Dialect) (q : Query) : Compiled String :=
  match q.source with
  | some source => .ok (d.policy.table source)
  | none => .error .noTargetTable

/-! ### inserting -/

/-- What an insert statement puts into a table. -/
def insertBody (d : Dialect) (table : String) (rows : List RowValues) : Compiled Fragment :=
  match rows with
  | [] => .ok (.text ("into " ++ table ++ " default values"))
  | first :: _ =>
    if first.isEmpty then .ok (.text ("into " ++ table ++ " default values"))
    else if rows.any fun row => row.keys != first.keys then .error .unequalColumns
    else
      .ok <|
        Fragment.text ("into " ++ table ++ " (" ++ d.policy.columnNames first.keys ++ ") values ")
          ++ .join ", " (rows.map fun row => Fragment.text "(" ++ Fragment.operands row.values ++ ")")

def insert (d : Dialect) (q : Query) (rows : List RowValues) : Compiled Fragment := do
  let table ← d.target q
  return Fragment.text "insert " ++ (← d.insertBody table rows)

/-- An insert of rows that passes over rows already there. -/
def insertOrIgnore (d : Dialect) (q : Query) (rows : List RowValues) : Compiled Fragment := do
  let table ← d.target q
  return Fragment.text "insert or ignore " ++ (← d.insertBody table rows)

def upsertAssignment (d : Dialect) : UpsertAssignment → Fragment
  | .proposed column =>
    let name := d.policy.columnName column
    .text (name ++ " = excluded." ++ name)
  | .assign column operand =>
    Fragment.text (d.policy.columnName column ++ " = ") ++ Fragment.operand operand

/-- An insert of rows that updates rows already there. -/
def upsert (d : Dialect) (q : Query) (rows : List RowValues) (uniqueBy : List String)
    (assignments : List UpsertAssignment) : Compiled Fragment := do
  if uniqueBy.isEmpty then throw .noUniqueColumns
  let inserted ← d.insert q rows
  let conflict := Fragment.text (" on conflict (" ++ d.policy.columnNames uniqueBy ++ ")")
  if assignments.isEmpty then return inserted ++ conflict ++ " do nothing"
  return inserted ++ conflict ++ " do update set "
    ++ .join ", " (assignments.map d.upsertAssignment)

/-! ### assignments -/

def lastSegment (name : String) : String := (Text.dotted name).getLastD name

/-- The keys of a path, without blanks around them. -/
def pathKeys (path : List Char) : List String := (Text.splitOnArrow path).map fun key => Text.trim (String.ofList key)

/-- The objects to be merged into JSON columns. -/
abbrev JsonGroups := List (String × List (String × Json))

/-- Sorts the values of an update into plain assignments and values for JSON paths by column. -/
def sortAssignments (d : Dialect) :
    List (String × Operand) → JsonGroups → Compiled (List Fragment × JsonGroups)
  | [], groups => .ok ([], groups)
  | (key, operand) :: rest, groups =>
    match Text.cutAtArrow key.toList, operand with
    | some _, .raw _ => .error (.rawInJsonPath key)
    | some (column, path), .value v =>
      let column := lastSegment (String.ofList column)
      let group := (groups.lookup column).getD []
      d.sortAssignments rest (insertEntry column (Json.put group (pathKeys path) v.toJson) groups)
    | none, operand => do
      let (plain, groups) ← d.sortAssignments rest groups
      return ((Fragment.text (d.policy.identifier (lastSegment key) ++ " = ") ++ Fragment.operand operand)
        :: plain, groups)

/-- The assignment that merges members into a JSON column. -/
def jsonAssignment (d : Dialect) (column : String) (members : List (String × Json)) : Fragment :=
  let name := d.policy.identifier column
  let start := Fragment.text ("coalesce(" ++ name ++ ", object_construct())")
  Fragment.text (name ++ " = ")
    ++ members.foldl
        (fun expression member =>
          Fragment.text "object_insert(" ++ expression
            ++ Fragment.text (", " ++ Policy.stringLiteral member.1 ++ ", parse_json(")
            ++ ⟨"?", [.text member.2.print]⟩ ++ "), true)")
        start

def assignments (d : Dialect) (values : RowValues) : Compiled Fragment := do
  let (plain, groups) ← d.sortAssignments values.entries []
  let all := plain ++ groups.map fun group => d.jsonAssignment group.1 group.2
  if all.isEmpty then throw .noAssignments
  return .join ", " all

/-! ### restricting -/

/-- The name under which the rows of a table can be identified. -/
def rowAlias? (source : String) : Option String :=
  let label := Text.trim <|
    match Name.splitAlias? source with
    | some (_, label) => label
    | none => lastSegment source
  if label = "" then none else some label

/-- The query of the row identifiers of a query. -/
def rowIdQuery? (q : Query) : Option Query :=
  match q.source with
  | some (.name source) =>
    (rowAlias? source).map fun label =>
      { q with columns := [.name (label ++ "." ++ rowId)], aggregate := none, distinct := .off }
  | _ => none

/-- A change restricted to the rows of a query. -/
def restricted (d : Dialect) (q : Query) (change : Fragment) : Compiled Fragment :=
  if !q.joins.isEmpty || q.limit.isSome then
    match rowIdQuery? q with
    | none => .error .noRowAlias
    | some rows => do
      let inner ← d.select rows
      return change ++ Fragment.text (" where " ++ d.policy.identifier rowId ++ " in (") ++ inner ++ ")"
  else do
    let conditions ← d.clauseFragments q.clauses
    return .sentence
      [change, if conditions.isEmpty then .empty else Fragment.text "where " ++ chain conditions]

def update (d : Dialect) (q : Query) (values : RowValues) : Compiled Fragment := do
  let table ← d.target q
  let assigned ← d.assignments values
  d.restricted q (Fragment.text ("update " ++ table ++ " set ") ++ assigned)

def delete (d : Dialect) (q : Query) : Compiled Fragment := do
  let table ← d.target q
  d.restricted q (.text ("delete from " ++ table))

/-- A deletion of all rows of a table. -/
def truncate (d : Dialect) (q : Query) : Compiled Fragment := do
  let table ← d.target q
  return .text ("truncate table " ++ table)

end Dialect

end WarehouseSql
