import WarehouseSql.Schema.Compile

/-!
Statements that look a schema up or clear it.  Two of the lookups name the database by a token, which the connection
replaces by the name of its database.
-/

namespace WarehouseSql

namespace SchemaDialect

/-! ### looking up -/

/-- Whether a table exists, by database and stored name. -/
def tableExists : String :=
  "select * from information_schema.tables where table_catalog = ? and table_name = ? and table_type = 'BASE TABLE'"

def tableDetails (table : String) : String :=
  "select * from information_schema.tables where table_name = " ++ Text.quoteLiteral table
    ++ " order by ordinal_position"

/-- The token in place of the name of the database. -/
def databaseToken : String := "\x7bDB_NAME\x7d"

/-- The columns of a table in a database, by database and stored name. -/
def columnListing (database : String) : String :=
  "select column_name as \"column_name\", data_type as \"column_type\", lower(is_nullable) as \"is_nullable\" from "
    ++ database ++ ".information_schema.columns where table_catalog = ? and table_name = ?"

/-- The type of a column in a database, by stored table and stored column. -/
def columnType (database : String) : String :=
  "select column_name as \"column_name\", data_type as \"column_type\", numeric_precision as \"numeric_precision\", numeric_scale as \"numeric_scale\" from "
    ++ database ++ ".information_schema.columns where table_name = ? and column_name = ?"

def allTables : String := "SHOW TABLES"

def allViews : String := "SHOW VIEWS"

/-! ### clearing -/

/-- Names in a list without spaces. -/
def nameList (d : SchemaDialect) (names : List String) : String :=
  String.intercalate "," (names.map d.policy.columnName)

def dropTables (d : SchemaDialect) (tables : List String) : String := "drop table " ++ d.nameList tables

def dropViews (d : SchemaDialect) (views : List String) : String := "drop view " ++ d.nameList views

def createDatabase (d : SchemaDialect) (name : String) : String :=
  "create database " ++ d.policy.tableWithPrefix "" name

def dropDatabase (d : SchemaDialect) (name : String) : String :=
  "drop database " ++ d.policy.tableWithPrefix "" name

def dropDatabaseIfExists (d : SchemaDialect) (name : String) : String :=
  "drop database if exists " ++ d.policy.tableWithPrefix "" name

def enableForeignKeys : String := "SET FOREIGN_KEY_CHECKS=1;"

def disableForeignKeys : String := "SET FOREIGN_KEY_CHECKS=0;"

end SchemaDialect

end WarehouseSql
