import WarehouseSql.Statement.Error
import WarehouseSql.Template.Basic
import WarehouseSql.Value.Literal

/-!
Inlining: a statement with the literals of its values in place of its positional placeholders.
-/

namespace WarehouseSql

/-- The statement with each value as a literal; there must be as many values as placeholders, and no named ones. -/
def interpolate (sql : String) (values : List Value) : Except StatementError String :=
  let template := Template.parse sql
  match template.names with
  | name :: _ => .error (.missingNamed name)
  | [] =>
    if template.positionalCount ≠ values.length then
      .error (.bindingArity template.positionalCount values.length)
    else .ok (template.render (values.map (·.literal none)) fun _ => none)

end WarehouseSql
