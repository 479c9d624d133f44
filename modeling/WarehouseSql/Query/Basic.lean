import WarehouseSql.Name.Policy
import WarehouseSql.Record
import WarehouseSql.Value.Basic

/-!
Descriptions of queries.  A query is plain data: what it reads from, what it selects, the conditions, and further
queries united with it.  Conditions, joins and unions hold queries again, at any depth.
-/

namespace WarehouseSql

/-! ### parts without queries inside -/

/-- Whether a query drops repeated rows, and on which columns. -/
inductive Distinct where
  | off
  | all
  | columns (names : List String)
deriving DecidableEq

/-- Whether repeated rows are dropped. -/
def Distinct.isSet : Distinct → Bool
  | .off => false
  | _ => true

/-- A function over columns. -/
structure Aggregate where
  function : String
  columns : List Reference
deriving DecidableEq

/-- How a clause is tied to the one before it. -/
inductive Connective where
  | and
  | or
deriving DecidableEq

inductive DatePart where
  | date
  | day
  | month
  | year
  | time
deriving DecidableEq

inductive JoinKind where
  | inner
  | left
  | right
  | cross
deriving DecidableEq

inductive Direction where
  | ascending
  | descending
deriving DecidableEq

inductive GroupCondition where
  | compare (column : Reference) (operator : String) (operand : Operand)
  | between (column : Reference) (low high : Operand) (negated : Bool)
  | raw (sql : String) (bindings : List Value)
deriving DecidableEq

/-- A condition on groups with its connective. -/
structure Having where
  connective : Connective
  condition : GroupCondition
deriving DecidableEq

/-- One key of an order. -/
inductive Order where
  | raw (sql : String)
  | column (reference : Reference) (direction : Direction)
deriving DecidableEq

/-- A lock on the rows read. -/
inductive Lock where
  | update
  | shared
  | raw (sql : String)
deriving DecidableEq

/-! ### queries -/

mutual
/-- A condition on rows. -/
inductive Condition where
  | compare (column : Reference) (operator : String) (operand : Operand)
  | compareColumns (first : Reference) (operator : String) (second : Reference)
  | among (column : Reference) (operands : List Operand) (negated : Bool)
  | isNull (column : Reference) (negated : Bool)
  | between (column : Reference) (low high : Operand) (negated : Bool)
  | group (clauses : List Clause)
  | raw (sql : String) (bindings : List Value)
  | existsRow (query : Query) (negated : Bool)
  | amongRows (column : Reference) (query : Query) (negated : Bool)
  | comparePart (part : DatePart) (column : Reference) (operator : String) (operand : Operand)

/-- A condition with its connective. -/
structure Clause where
  connective : Connective
  condition : Condition

/-- A table joined under conditions. -/
structure Join where
  kind : JoinKind
  table : Reference
  clauses : List Clause

/-- A further query united with the first; `keepAll` keeps repeated rows. -/
structure Branch where
  query : Query
  keepAll : Bool

structure Query where
  source : Option Reference
  columns : List Reference
  distinct : Distinct
  aggregate : Option Aggregate
  joins : List Join
  clauses : List Clause
  groups : List Reference
  havings : List Having
  orders : List Order
  limit : Option UInt64
  offset : Option UInt64
  lock : Option Lock
  branches : List Branch
  unionOrders : List Order
  unionLimit : Option UInt64
  unionOffset : Option UInt64
end

/-- The query of which nothing is said. -/
def Query.empty : Query :=
  ⟨none, [], .off, none, [], [], [], [], [], none, none, none, [], [], none, none⟩

/-! ### changes -/

/-- The values of one row by column. -/
abbrev RowValues := Record Operand

/-- An assignment for rows that are already there: the value proposed for the row, or another one. -/
inductive UpsertAssignment where
  | proposed (column : String)
  | assign (column : String) (operand : Operand)
deriving DecidableEq

/-! ### keywords -/

def Connective.keyword : Connective → String
  | .and => "and"
  | .or => "or"

def JoinKind.keyword : JoinKind → String
  | .inner => "inner"
  | .left => "left"
  | .right => "right"
  | .cross => "cross"

def Direction.keyword : Direction → String
  | .ascending => "asc"
  | .descending => "desc"

/-- The format that leaves the part of a date. -/
def DatePart.format : DatePart → String
  | .date => "%Y-%m-%d"
  | .day => "%d"
  | .month => "%m"
  | .year => "%Y"
  | .time => "%H:%M:%S"

end WarehouseSql
