import WarehouseSql.Query.Basic

/-!
Building queries step by step, each step a query with one thing more or one thing replaced.
-/

namespace WarehouseSql

namespace Query

def ofTable (table : Reference) : Query := { Query.empty with source := some table }

/-! ### what is selected -/

def selecting (q : Query) (columns : List Reference) : Query := { q with columns }

def addColumn (q : Query) (column : Reference) : Query := { q with columns := q.columns ++ [column] }

def distinctRows (q : Query) : Query := { q with distinct := .all }

/-- The query without rows that repeat these columns. -/
def distinctOn (q : Query) (columns : List String) : Query := { q with distinct := .columns columns }

/-- The query of a function over columns. -/
def aggregating (q : Query) (function : String) (columns : List Reference) : Query :=
  { q with aggregate := some ⟨function, columns⟩ }

/-! ### conditions -/

def addClause (q : Query) (connective : Connective) (condition : Condition) : Query :=
  { q with clauses := q.clauses ++ [⟨connective, condition⟩] }

/-- The query with one more condition that has to hold as well. -/
def filter (q : Query) (condition : Condition) : Query := q.addClause .and condition

def addJoin (q : Query) (join : Join) : Query := { q with joins := q.joins ++ [join] }

def addGroups (q : Query) (groups : List Reference) : Query := { q with groups := q.groups ++ groups }

def addHaving (q : Query) (condition : GroupCondition) : Query :=
  { q with havings := q.havings ++ [⟨.and, condition⟩] }

/-! ### order and limits -/

def addOrder (q : Query) (order : Order) : Query := { q with orders := q.orders ++ [order] }

def limitTo (q : Query) (count : UInt64) : Query := { q with limit := some count }

/-- The query without so many first rows. -/
def skipping (q : Query) (count : UInt64) : Query := { q with offset := some count }

def locking (q : Query) (lock : Lock) : Query := { q with lock := some lock }

def unite (q other : Query) (keepAll : Bool) : Query := { q with branches := q.branches ++ [⟨other, keepAll⟩] }

end Query

/-- A join with one more condition that has to hold as well. -/
def Join.filter (j : Join) (condition : Condition) : Join :=
  { j with clauses := j.clauses ++ [⟨.and, condition⟩] }

end WarehouseSql
