import WarehouseSql.Value.Basic

/-!
Result rows: values by column name in the order of the select.  The warehouse upper-cases aliases without quotes, so
there is a lookup that falls back to ignoring the case of ASCII letters.
-/

namespace WarehouseSql

structure Row where
  columns : List (String × Value)
deriving DecidableEq

namespace Row

/-- The first value under a name. -/
def get? (row : Row) (column : String) : Option Value := row.columns.lookup column

/-- The first value under a name, else the first under a name that differs in ASCII case only. -/
def getIgnoringCase? (row : Row) (column : String) : Option Value :=
  (row.get? column).or <|
    (row.columns.find? fun entry => Text.asciiLower entry.1 == Text.asciiLower column).map Prod.snd

def first? (row : Row) : Option Value := row.columns.head?.map Prod.snd

def size (row : Row) : Nat := row.columns.length

end Row

end WarehouseSql
