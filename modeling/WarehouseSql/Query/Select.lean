import WarehouseSql.Dialect
import WarehouseSql.Fragment
import WarehouseSql.Text.Case

/-!
Selecting.  `Dialect.select` compiles a query with all that is inside it; every part is a fragment, so the bindings
come in the order of their placeholders.  A lock is refused by a strict dialect and leaves no trace in a lenient one.
-/

namespace WarehouseSql

namespace Dialect

/-! ### parts without queries inside -/

/-- The operators that may stand between a column and a value. -/
def operators : List String :=
  ["=", "<", ">", "<=", ">=", "<>", "!=", "like", "not like", "ilike", "not ilike", "rlike", "regexp"]

/-- An operator in its written form. -/
def operator (text : String) : Compiled String :=
  let word := Text.lower (Text.trim text)
  if operators.contains word then .ok word else .error (.invalidOperator text)

/-- Whether a text can name a function. -/
def isFunctionName (cs : List Char) : Bool := !cs.isEmpty && cs.all fun c => c.isAlphanum || c == '_'

/-- What an aggregate ranges over. -/
def aggregateRange (d : Dialect) (distinct : Distinct) (columns : List Reference) : String :=
  let own := if columns.isEmpty then "*" else d.policy.columns columns
  match distinct with
  | .off => own
  | .all => if own = "*" then own else "distinct " ++ own
  | .columns names => "distinct " ++ d.policy.columnNames names

/-- The head of a select that computes an aggregate. -/
def aggregate (d : Dialect) (distinct : Distinct) (a : Aggregate) : Compiled String :=
  let function := Text.trim a.function
  if isFunctionName function.toList then
    .ok ("select " ++ function ++ "(" ++ d.aggregateRange distinct a.columns ++ ") as \"aggregate\"")
  else .error (.invalidFunction a.function)

/-- The head of a select that lists columns. -/
def columnList (d : Dialect) (q : Query) : String :=
  (if q.distinct.isSet then "select distinct " else "select ")
    ++ (if q.columns.isEmpty then "*" else d.policy.columns q.columns)

/-- A lock, which the warehouse lacks. -/
def lock (d : Dialect) (l : Lock) : Compiled String :=
  match d.strictness with
  | .strict => .error (.lockUnsupported l)
  | .lenient => .ok ""

def comparePart (d : Dialect) (part : DatePart) (column : Reference) (op : String) (operand : Operand) :
    Compiled Fragment := do
  let op ← operator op
  return Fragment.text ("strftime('" ++ part.format ++ "', " ++ d.policy.column column ++ ") " ++ op
      ++ " cast(")
    ++ Fragment.operand operand ++ " as text)"

def compare (d : Dialect) (column : Reference) (op : String) (operand : Operand) : Compiled Fragment := do
  let op ← operator op
  return Fragment.text (d.policy.column column ++ " " ++ op ++ " ") ++ Fragment.operand operand

/-- The test that a comparison with null becomes, if it does. -/
def nullTest? (op : String) : Operand → Option String
  | .value .null =>
    if op = "=" then some "is null" else if op = "!=" ∨ op = "<>" then some "is not null" else none
  | _ => none

/-- A comparison in which equality with null becomes a test for null. -/
def compareOrTest (d : Dialect) (column : Reference) (op : String) (operand : Operand) :
    Compiled Fragment := do
  let word ← operator op
  match nullTest? word operand with
  | some test => return Fragment.text (d.policy.column column ++ " " ++ test)
  | none => d.compare column op operand

def negatable (negated : Bool) (keyword : String) : String :=
  if negated then "not " ++ keyword else keyword

def between (d : Dialect) (column : Reference) (low high : Operand) (negated : Bool) : Fragment :=
  Fragment.text (d.policy.column column ++ " " ++ negatable negated "between" ++ " ")
    ++ Fragment.operand low ++ " and " ++ Fragment.operand high

/-- A choice among operands; there is nothing among none. -/
def among (d : Dialect) (column : Reference) (operands : List Operand) (negated : Bool) : Fragment :=
  if operands.isEmpty then Fragment.text (if negated then "1 = 1" else "0 = 1")
  else
    Fragment.text (d.policy.column column ++ " " ++ negatable negated "in" ++ " (")
      ++ Fragment.operands operands ++ ")"

/-- Fragments with the connective of each but the first in front. -/
def chain : List (Connective × Fragment) → Fragment
  | [] => .empty
  | (_, first) :: rest =>
    rest.foldl
      (fun sofar next => sofar ++ Fragment.text (" " ++ next.1.keyword ++ " ") ++ next.2)
      first

def groupCondition (d : Dialect) : GroupCondition → Compiled Fragment
  | .compare column op operand => d.compare column op operand
  | .between column low high negated => .ok (d.between column low high negated)
  | .raw sql bindings => .ok ⟨sql, bindings⟩

def havingClause (d : Dialect) (havings : List Having) : Compiled Fragment := do
  let conditions ← havings.mapM fun h => do return (h.connective, ← d.groupCondition h.condition)
  return Fragment.text "having " ++ chain conditions

def orderClause (d : Dialect) (orders : List Order) : String :=
  "order by " ++ Text.commaList (orders.map fun
    | .raw sql => sql
    | .column column direction => d.policy.column column ++ " " ++ direction.keyword)

def countClause (keyword : String) (count : UInt64) : String := keyword ++ " " ++ integerText count.toNat

/-- A part of a statement that there may be. -/
def optionalPart {α : Type} (write : α → String) : Option α → Fragment
  | none => .empty
  | some a => Fragment.text (write a)

/-- A part of a statement that lists something, if there is something to list. -/
def listedPart {α : Type} (write : List α → String) (items : List α) : Fragment :=
  if items.isEmpty then .empty else Fragment.text (write items)

/-- A statement read as a table. -/
def derived (inner : Fragment) : Fragment := Fragment.text "select * from (" ++ inner ++ ")"

/-! ### assembling -/

/-- The compiled parts of a query. -/
structure Parts where
  aggregate : Option String
  joins : Fragment
  clauses : Fragment
  havings : Fragment
  lock : Fragment
  branches : List Fragment

/-- A select from its head and its parts, without branches. -/
def singleSelect (d : Dialect) (q : Query) (parts : Parts) (head : String) : Fragment :=
  .sentence
    [.text head,
      optionalPart (fun source => "from " ++ d.policy.table source) q.source,
      parts.joins, parts.clauses,
      listedPart (fun groups => "group by " ++ d.policy.columns groups) q.groups,
      parts.havings,
      listedPart d.orderClause q.orders,
      optionalPart (countClause "limit") q.limit,
      optionalPart (countClause "offset") q.offset,
      parts.lock]

/-- A select with its branches, and the order and limits of the whole. -/
def unitedSelect (d : Dialect) (q : Query) (parts : Parts) (head : String) : Fragment :=
  let first := d.singleSelect q parts head
  if parts.branches.isEmpty then first
  else
    .join " " <|
      [derived first] ++ parts.branches
        ++ (if q.unionOrders.isEmpty then [] else [Fragment.text (d.orderClause q.unionOrders)])
        ++ (q.unionLimit.map fun n => Fragment.text (countClause "limit" n)).toList
        ++ (q.unionOffset.map fun n => Fragment.text (countClause "offset" n)).toList

/-- A query from its parts.  An aggregate over branches or over conditions on groups is computed from the rows of
the query without it. -/
def assemble (d : Dialect) (q : Query) (parts : Parts) : Fragment :=
  match parts.aggregate with
  | none => d.unitedSelect q parts (d.columnList q)
  | some head =>
    if parts.branches.isEmpty && q.havings.isEmpty then d.unitedSelect q parts head
    else
      Fragment.text (head ++ " from (") ++ d.unitedSelect q parts (d.columnList q)
        ++ Fragment.text (") as " ++ d.policy.table (.name "temp_table"))

/-! ### compiling -/

mutual
def select (d : Dialect) : Query → Compiled Fragment
  | q@{ joins, clauses, branches, .. } => do
    let aggregate ← q.aggregate.mapM (d.aggregate q.distinct)
    let joins ← d.joinFragments joins
    let conditions ← d.clauseFragments clauses
    let havings ← if q.havings.isEmpty then pure .empty else d.havingClause q.havings
    let lock ← q.lock.elim (pure "") d.lock
    let branches ← d.branchFragments branches
    return d.assemble q
      { aggregate
        joins := .join " " joins
        clauses := if conditions.isEmpty then .empty else Fragment.text "where " ++ chain conditions
        havings
        lock := .text lock
        branches }

def joinFragments (d : Dialect) : List Join → Compiled (List Fragment)
  | [] => pure []
  | ⟨kind, table, clauses⟩ :: joins => do
    let conditions ← d.clauseFragments clauses
    let others ← d.joinFragments joins
    let joined := Fragment.text (kind.keyword ++ " join " ++ d.policy.table table)
    return (if conditions.isEmpty then joined else joined ++ " on " ++ chain conditions) :: others

def clauseFragments (d : Dialect) : List Clause → Compiled (List (Connective × Fragment))
  | [] => pure []
  | ⟨connective, condition⟩ :: clauses => do
    let first ← d.condition condition
    let others ← d.clauseFragments clauses
    return (connective, first) :: others

def condition (d : Dialect) : Condition → Compiled Fragment
  | .compare column op operand => d.compareOrTest column op operand
  | .compareColumns first op second => do
    let op ← operator op
    return Fragment.text (d.policy.column first ++ " " ++ op ++ " " ++ d.policy.column second)
  | .among column operands negated => .ok (d.among column operands negated)
  | .isNull column negated =>
    .ok (Fragment.text (d.policy.column column ++ (if negated then " is not null" else " is null")))
  | .between column low high negated => .ok (d.between column low high negated)
  | .group clauses => do
    if clauses.isEmpty then throw .emptyGroup
    let conditions ← d.clauseFragments clauses
    return Fragment.text "(" ++ chain conditions ++ ")"
  | .raw sql bindings => .ok ⟨sql, bindings⟩
  | .existsRow query negated => do
    let inner ← d.select query
    return Fragment.text (negatable negated "exists" ++ " (") ++ inner ++ ")"
  | .amongRows column query negated => do
    let inner ← d.select query
    return Fragment.text (d.policy.column column ++ " " ++ negatable negated "in" ++ " (") ++ inner ++ ")"
  | .comparePart part column op operand => d.comparePart part column op operand

/-- Branches with the keyword that unites each. -/
def branchFragments (d : Dialect) : List Branch → Compiled (List Fragment)
  | [] => pure []
  | ⟨query, keepAll⟩ :: branches => do
    let inner ← d.select query
    let others ← d.branchFragments branches
    return (Fragment.text (if keepAll then "union all " else "union ") ++ derived inner) :: others
end

end Dialect

end WarehouseSql
