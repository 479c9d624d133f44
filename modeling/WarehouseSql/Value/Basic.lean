import WarehouseSql.Text.Case
import WarehouseSql.Value.Numeral

/-!
Values bound to the placeholders of a statement, the types that they may be declared with, the operands of clauses,
and the readings of a value as a truth value, a text, an integer and a generated identifier.
-/

namespace WarehouseSql

/-- A single value. -/
inductive Value where
  | null
  | bool (flag : Bool)
  | int (number : Int64)
  | float (number : Binary64)
  | text (content : String)
deriving DecidableEq

/-- The type that a binding is declared with or inferred to have. -/
inductive BindType where
  | text
  | integer
  | float
  | boolean
  | null
deriving DecidableEq

/-- The right-hand side of a clause: a value for a placeholder, or SQL to be taken as it is. -/
inductive Operand where
  | raw (sql : String)
  | value (v : Value)
deriving DecidableEq

def BindType.name : BindType → String
  | .text => "text"
  | .integer => "integer"
  | .float => "float"
  | .boolean => "boolean"
  | .null => "null"

def integerText (n : Int) : String := Binary64.signed (n < 0) (String.ofList (Decimal.digits n.natAbs))

namespace Value

/-- The type that the kind of a value suggests. -/
def inferredType : Value → BindType
  | .null => .null
  | .bool _ => .boolean
  | .int _ => .integer
  | .float _ => .float
  | .text _ => .text

def isNull : Value → Bool
  | .null => true
  | _ => false

/-- The truth value: a number other than zero, or one of the words 1, true, on and yes. -/
def truthy : Value → Bool
  | .null => false
  | .bool flag => flag
  | .int number => number != 0
  | .float number => !number.isZero
  | .text content => ["1", "true", "on", "yes"].contains (Text.asciiLower (Text.trim content))

/-- The text of a value, without quotes. -/
def display : Value → String
  | .null => "null"
  | .bool flag => if flag then "true" else "false"
  | .int number => integerText number.toInt
  | .float number => number.text
  | .text content => content

/-- The integer that a value denotes, cut off toward zero and held within 64 bits. -/
def toInteger? : Value → Option Int64
  | .int number => some number
  | .float number => if number.isFinite then some number.toInt64 else none
  | .text content =>
    (Numeral.read? (Text.trimChars content.toList)).map fun numeral =>
      numeral.toInt64?.getD numeral.toBinary64.toInt64
  | _ => none

/-- A generated identifier as a whole number where the value denotes one, else as text. -/
def normalizedId (v : Value) : Value :=
  match v.toInteger? with
  | some number => .int number
  | none => .text v.display

end Value

end WarehouseSql
