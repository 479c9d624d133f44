import WarehouseSql.Schema.Blueprint

/-!
Building blueprints: columns of the usual kinds, keys on columns, and temporary tables.
-/

namespace WarehouseSql

namespace ColumnDefinition

/-- A text column of bounded length. -/
def string (name : String) (length : UInt32) : ColumnDefinition :=
  { name, type := .string, length := some length }

/-- A decimal column with a number of digits in all and after the point. -/
def decimal (name : String) (total places : UInt32) : ColumnDefinition :=
  { name, type := .decimal, total := some total, places := some places }

/-- A column that counts up by itself. -/
def increments (name : String) (type : ColumnType) : ColumnDefinition :=
  { name, type, autoIncrement := true }

end ColumnDefinition

namespace Blueprint

def makeTemporary (b : Blueprint) : Blueprint := { b with temporary := true }

def addKey (b : Blueprint) (kind : KeyKind) (columns : List String) : Blueprint :=
  b.addCommand (.addKey kind { columns })

end Blueprint

end WarehouseSql
