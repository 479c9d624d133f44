import Mathlib.Tactic.Common
import WarehouseSql.Request

/-!
Requests without raw SQL, and the requests that have their values written into them.  `Request.isRawFree` tests a
request throughout, with all queries inside it; `Request.inlined` puts the literal of every value in its place as raw
SQL, but for a null that a comparison turns into a test.
-/

namespace WarehouseSql

/-! ### parts without queries inside -/

/-- Whether a reference is a name that passes a test. -/
def Reference.isName (named : String → Bool) : Reference → Bool
  | .raw _ => false
  | .name n => named n

def Operand.isValue : Operand → Bool
  | .raw _ => false
  | .value _ => true

/-- The operand with its value as raw SQL. -/
def Operand.inlined : Operand → Operand
  | .raw sql => .raw sql
  | .value v => .raw (v.literal none)

def Distinct.isNamed (named : String → Bool) : Distinct → Bool
  | .off => true
  | .all => true
  | .columns names => names.all named

def GroupCondition.isRawFree (named : String → Bool) : GroupCondition → Bool
  | .compare column _ operand => column.isName named && operand.isValue
  | .between column low high _ => column.isName named && low.isValue && high.isValue
  | .raw _ _ => false

def GroupCondition.inlined : GroupCondition → GroupCondition
  | .compare column op operand => .compare column op operand.inlined
  | .between column low high negated => .between column low.inlined high.inlined negated
  | .raw sql bindings => .raw sql bindings

def Having.inlined (h : Having) : Having := ⟨h.connective, h.condition.inlined⟩

def Order.isRawFree (named : String → Bool) : Order → Bool
  | .raw _ => false
  | .column reference _ => reference.isName named

/-- The operand of a comparison as raw SQL; a null that is tested for stays a value. -/
def Operand.inlinedUnder (op : String) : Operand → Operand
  | .value .null =>
    if ["=", "!=", "<>"].contains (Text.lower (Text.trim op)) then .value .null else .raw (Value.null.literal none)
  | operand => operand.inlined

/-! ### queries -/

mutual
/-- Whether a query has no raw SQL anywhere and all its names pass a test. -/
def Query.isRawFree (named : String → Bool) : Query → Bool
  | ⟨source, columns, distinct, aggregate, joins, clauses, groups, havings, orders, _, _, _, branches, unionOrders,
      _, _⟩ =>
    source.all (·.isName named) && columns.all (·.isName named) && distinct.isNamed named
      && aggregate.all (fun a => a.columns.all (·.isName named)) && joinsRawFree named joins
      && clausesRawFree named clauses && groups.all (·.isName named)
      && havings.all (fun h => h.condition.isRawFree named) && orders.all (·.isRawFree named)
      && branchesRawFree named branches && unionOrders.all (·.isRawFree named)

def joinsRawFree (named : String → Bool) : List Join → Bool
  | [] => true
  | ⟨_, table, clauses⟩ :: joins =>
    table.isName named && clausesRawFree named clauses && joinsRawFree named joins

def clausesRawFree (named : String → Bool) : List Clause → Bool
  | [] => true
  | ⟨_, condition⟩ :: clauses => condition.isRawFree named && clausesRawFree named clauses

def Condition.isRawFree (named : String → Bool) : Condition → Bool
  | .compare column _ operand => column.isName named && operand.isValue
  | .compareColumns first _ second => first.isName named && second.isName named
  | .among column operands _ => column.isName named && operands.all Operand.isValue
  | .isNull column _ => column.isName named
  | .between column low high _ => column.isName named && low.isValue && high.isValue
  | .group clauses => clausesRawFree named clauses
  | .raw _ _ => false
  | .existsRow query _ => query.isRawFree named
  | .amongRows column query _ => column.isName named && query.isRawFree named
  | .comparePart _ column _ operand => column.isName named && operand.isValue

def branchesRawFree (named : String → Bool) : List Branch → Bool
  | [] => true
  | ⟨query, _⟩ :: branches => query.isRawFree named && branchesRawFree named branches
end

mutual
/-- The query with all its values as raw SQL. -/
def Query.inlined : Query → Query
  | ⟨source, columns, distinct, aggregate, joins, clauses, groups, havings, orders, limit, offset, lock, branches,
      unionOrders, unionLimit, unionOffset⟩ =>
    ⟨source, columns, distinct, aggregate, joinsInlined joins, clausesInlined clauses, groups,
      havings.map Having.inlined, orders, limit, offset, lock, branchesInlined branches, unionOrders, unionLimit,
      unionOffset⟩

def joinsInlined : List Join → List Join
  | [] => []
  | ⟨kind, table, clauses⟩ :: joins => ⟨kind, table, clausesInlined clauses⟩ :: joinsInlined joins

def clausesInlined : List Clause → List Clause
  | [] => []
  | ⟨connective, condition⟩ :: clauses => ⟨connective, condition.inlined⟩ :: clausesInlined clauses

def Condition.inlined : Condition → Condition
  | .compare column op operand => .compare column op (operand.inlinedUnder op)
  | .compareColumns first op second => .compareColumns first op second
  | .among column operands negated => .among column (operands.map Operand.inlined) negated
  | .isNull column negated => .isNull column negated
  | .between column low high negated => .between column low.inlined high.inlined negated
  | .group clauses => .group (clausesInlined clauses)
  | .raw sql bindings => .raw sql bindings
  | .existsRow query negated => .existsRow query.inlined negated
  | .amongRows column query negated => .amongRows column query.inlined negated
  | .comparePart part column op operand => .comparePart part column op operand.inlined

def branchesInlined : List Branch → List Branch
  | [] => []
  | ⟨query, keepAll⟩ :: branches => ⟨query.inlined, keepAll⟩ :: branchesInlined branches
end

/-- What a query without raw SQL consists of. -/
structure Query.RawFree (named : String → Bool) (q : Query) : Prop where
  source : q.source.all (·.isName named) = true
  columns : q.columns.all (·.isName named) = true
  distinct : q.distinct.isNamed named = true
  aggregate : q.aggregate.all (fun a => a.columns.all (·.isName named)) = true
  joins : joinsRawFree named q.joins = true
  clauses : clausesRawFree named q.clauses = true
  groups : q.groups.all (·.isName named) = true
  havings : q.havings.all (fun h => h.condition.isRawFree named) = true
  orders : q.orders.all (·.isRawFree named) = true
  branches : branchesRawFree named q.branches = true
  unionOrders : q.unionOrders.all (·.isRawFree named) = true

namespace Query

lemma isRawFree_iff {named : String → Bool} {q : Query} : q.isRawFree named = true ↔ q.RawFree named := by
  cases q
  simp only [isRawFree, Bool.and_eq_true]
  constructor
  · rintro ⟨⟨⟨⟨⟨⟨⟨⟨⟨⟨h1, h2⟩, h3⟩, h4⟩, h5⟩, h6⟩, h7⟩, h8⟩, h9⟩, h10⟩, h11⟩
    exact ⟨h1, h2, h3, h4, h5, h6, h7, h8, h9, h10, h11⟩
  · rintro ⟨h1, h2, h3, h4, h5, h6, h7, h8, h9, h10, h11⟩
    exact ⟨⟨⟨⟨⟨⟨⟨⟨⟨⟨h1, h2⟩, h3⟩, h4⟩, h5⟩, h6⟩, h7⟩, h8⟩, h9⟩, h10⟩, h11⟩

lemma inlined_eq (q : Query) :
    q.inlined = { q with
      joins := joinsInlined q.joins
      clauses := clausesInlined q.clauses
      havings := q.havings.map Having.inlined
      branches := branchesInlined q.branches } := by
  cases q
  rfl

end Query

/-! ### changes -/

def Record.map {α β : Type} (f : α → β) (r : Record α) : Record β where
  entries := r.entries.map fun entry => (entry.1, f entry.2)
  inOrder := by
    have hkeys : r.entries.Pairwise fun a b => a.1 < b.1 := r.inOrder
    exact List.pairwise_map.2 hkeys

namespace Record

variable {α β : Type} (f : α → β) (r : Record α)

@[simp] lemma keys_map : (r.map f).keys = r.keys := by
  simp [keys, Record.map, Function.comp_def]

@[simp] lemma values_map : (r.map f).values = r.values.map f := by
  simp [values, Record.map, Function.comp_def]

@[simp] lemma isEmpty_map : (r.map f).isEmpty = r.isEmpty := by
  simp [isEmpty, Record.map]

end Record

def RowValues.isRawFree (named : String → Bool) (row : RowValues) : Bool :=
  row.keys.all named && row.values.all Operand.isValue

def RowValues.inlined (row : RowValues) : RowValues := row.map Operand.inlined

def UpsertAssignment.isRawFree (named : String → Bool) : UpsertAssignment → Bool
  | .proposed column => named column
  | .assign column operand => named column && operand.isValue

def UpsertAssignment.inlined : UpsertAssignment → UpsertAssignment
  | .proposed column => .proposed column
  | .assign column operand => .assign column operand.inlined

namespace Request

/-- Whether a request has no raw SQL anywhere, all its names pass a test, and an update sets no JSON paths. -/
def isRawFree (named : String → Bool) : Request → Bool
  | .select query => query.isRawFree named
  | .insert query rows => query.isRawFree named && rows.all (RowValues.isRawFree named)
  | .insertOrIgnore query rows => query.isRawFree named && rows.all (RowValues.isRawFree named)
  | .insertGetId query values _ => query.isRawFree named && RowValues.isRawFree named values
  | .upsert query rows uniqueBy assignments =>
    query.isRawFree named && rows.all (RowValues.isRawFree named) && uniqueBy.all named
      && assignments.all (·.isRawFree named)
  | .update query values =>
    query.isRawFree named && RowValues.isRawFree named values
      && values.keys.all fun key => (Text.cutAtArrow key.toList).isNone
  | .delete query => query.isRawFree named
  | .truncate query => query.isRawFree named

/-- The request with all its values as raw SQL. -/
def inlined : Request → Request
  | .select query => .select query.inlined
  | .insert query rows => .insert query.inlined (rows.map RowValues.inlined)
  | .insertOrIgnore query rows => .insertOrIgnore query.inlined (rows.map RowValues.inlined)
  | .insertGetId query values sequence => .insertGetId query.inlined (RowValues.inlined values) sequence
  | .upsert query rows uniqueBy assignments =>
    .upsert query.inlined (rows.map RowValues.inlined) uniqueBy (assignments.map UpsertAssignment.inlined)
  | .update query values => .update query.inlined (RowValues.inlined values)
  | .delete query => .delete query.inlined
  | .truncate query => .truncate query.inlined

end Request

end WarehouseSql
