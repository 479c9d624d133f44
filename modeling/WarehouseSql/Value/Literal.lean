import WarehouseSql.Text.Quoted
import WarehouseSql.Value.Basic

/-!
The SQL literal of a value.  Text that denotes a number stays as it is written, a negative number stands in
parentheses so that a minus sign before it opens no comment, and all else is quoted.
-/

namespace WarehouseSql

def booleanKeyword (flag : Bool) : String := if flag then "TRUE" else "FALSE"

/-- A number, in parentheses when it starts with a minus sign. -/
def parenthesizeNegative (number : String) : String :=
  match number.toList with
  | '-' :: _ => "(" ++ number ++ ")"
  | _ => number

/-- A finite number with a point or an exponent. -/
def pointedText (number : Binary64) : String :=
  let text := number.text
  if text.toList.any fun c => c == '.' || c == 'e' || c == 'E' then text else text ++ ".0"

/-- Text whose type leaves a number unquoted. -/
def numeralOrQuoted (content : String) : String :=
  if isNumeral content then parenthesizeNegative (Text.trim content) else Text.quoteLiteral content

/-- The literal of a value under its declared type, or as its own kind suggests. -/
def Value.literal (v : Value) (declared : Option BindType) : String :=
  match v, declared with
  | .null, _ => "null"
  | _, some .null => "null"
  | .bool flag, _ => booleanKeyword flag
  | other, some .boolean => booleanKeyword other.truthy
  | .int number, _ => parenthesizeNegative (integerText number.toInt)
  | .float number, _ =>
    if number.isFinite then parenthesizeNegative (pointedText number) else Text.quoteLiteral number.text
  | .text content, some .text => Text.quoteLiteral content
  | .text content, _ => numeralOrQuoted content

end WarehouseSql
