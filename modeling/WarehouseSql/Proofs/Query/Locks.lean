import WarehouseSql.Proofs.Query.Selecting

/-!
Locks, and what a strict dialect makes of them.  `Compiled.Refuses` relates two compilations that agree unless the
first one has something to refuse.  **A strict dialect compiles a query as the lenient one compiles it without its
locks, and refuses it if there is one, however deep** (`Dialect.refuses_select`); a change meets the locks of its
query only where it reads them (`Request.refuses_compile`).
-/

namespace WarehouseSql

/-! ### refusing -/

/-- If something is refused, the first compilation fails, for the reason of the second one or because a construct is
not supported; if nothing is, the two agree. -/
def Compiled.Refuses {α : Type} : Bool → Compiled α → Compiled α → Prop
  | true, x, y => ∃ e, x = .error e ∧ (y = .error e ∨ e.isUnsupported = true)
  | false, x, y => x = y

namespace Compiled.Refuses

variable {α β : Type} {r s : Bool} {x y : Compiled α}

lemma error (r : Bool) (e : GrammarError) : Refuses r (.error e : Compiled α) (.error e) := by
  cases r with
  | true => exact ⟨e, rfl, .inl rfl⟩
  | false => rfl

lemma bind {f g : α → Compiled β} (h : Refuses r x y) (hf : ∀ a, Refuses s (f a) (g a)) :
    Refuses (r || s) (x >>= f) (y >>= g) := by
  cases r with
  | true =>
    obtain ⟨e, rfl, h⟩ := h
    refine ⟨e, rfl, h.imp_left ?_⟩
    rintro rfl
    rfl
  | false =>
    have h : x = y := h
    subst h
    cases x with
    | error e => exact error _ e
    | ok a => exact hf a

lemma after (x : Compiled α) {f g : α → Compiled β} (hf : ∀ a, Refuses s (f a) (g a)) :
    Refuses s (x >>= f) (x >>= g) :=
  bind (r := false) rfl hf

lemma andThen {f g : α → Compiled β} (h : Refuses r x y) (hf : ∀ a, f a = g a) :
    Refuses r (x >>= f) (y >>= g) := by
  have hbind := h.bind (s := false) hf
  rwa [Bool.or_false] at hbind

lemma eq_ok (h : Refuses r x y) {a : α} (hx : x = .ok a) : r = false ∧ y = .ok a := by
  cases r with
  | true =>
    obtain ⟨e, rfl, -⟩ := h
    cases hx
  | false => exact ⟨rfl, h ▸ hx⟩

lemma eq_ok_iff (h : Refuses r x y) {a : α} : x = .ok a ↔ y = .ok a ∧ r = false := by
  constructor
  · intro hx
    exact (h.eq_ok hx).symm
  · rintro ⟨hy, rfl⟩
    have h : x = y := h
    rw [h, hy]

lemma isUnsupported (h : Refuses r x y) {e : GrammarError} {a : α} (hx : x = .error e) (hy : y = .ok a) :
    e.isUnsupported = true := by
  subst hy
  cases r with
  | true =>
    obtain ⟨e', rfl, h⟩ := h
    obtain rfl := Except.error.inj hx
    rcases h with h | h
    · cases h
    · exact h
  | false =>
    have h : x = .ok a := h
    rw [h] at hx
    cases hx

end Compiled.Refuses

/-- Whether something that the warehouse lacks is refused, if it is there. -/
def Strictness.refuses (s : Strictness) (present : Bool) : Bool := present && s = .strict

namespace Strictness

@[simp] lemma refuses_strict (present : Bool) : refuses .strict present = present := by simp [refuses]

@[simp] lemma refuses_lenient (present : Bool) : refuses .lenient present = false := by simp [refuses]

lemma refuses_or (s : Strictness) (a b : Bool) : s.refuses (a || b) = (s.refuses a || s.refuses b) :=
  Bool.and_or_distrib_right a b _

end Strictness

/-- The dialect with the same policy that leaves out what the warehouse lacks. -/
def Dialect.lenient (d : Dialect) : Dialect := { d with strictness := .lenient }

/-! ### locks -/

mutual
/-- Whether there is a lock in a query or in a query inside it. -/
def Query.isLocked : Query → Bool
  | ⟨_, _, _, _, joins, clauses, _, _, _, _, _, lock, branches, _, _, _⟩ =>
    joinsLocked joins || (clausesLocked clauses || (lock.isSome || branchesLocked branches))

def joinsLocked : List Join → Bool
  | [] => false
  | ⟨_, _, clauses⟩ :: joins => clausesLocked clauses || joinsLocked joins

def clausesLocked : List Clause → Bool
  | [] => false
  | ⟨_, condition⟩ :: clauses => condition.isLocked || clausesLocked clauses

def Condition.isLocked : Condition → Bool
  | .compare _ _ _ => false
  | .compareColumns _ _ _ => false
  | .among _ _ _ => false
  | .isNull _ _ => false
  | .between _ _ _ _ => false
  | .group clauses => clausesLocked clauses
  | .raw _ _ => false
  | .existsRow query _ => query.isLocked
  | .amongRows _ query _ => query.isLocked
  | .comparePart _ _ _ _ => false

def branchesLocked : List Branch → Bool
  | [] => false
  | ⟨query, _⟩ :: branches => query.isLocked || branchesLocked branches
end

mutual
/-- The query without its lock and without those of the queries inside it. -/
def Query.unlocked : Query → Query
  | ⟨source, columns, distinct, aggregate, joins, clauses, groups, havings, orders, limit, offset, _, branches,
      unionOrders, unionLimit, unionOffset⟩ =>
    ⟨source, columns, distinct, aggregate, joinsUnlocked joins, clausesUnlocked clauses, groups, havings, orders,
      limit, offset, none, branchesUnlocked branches, unionOrders, unionLimit, unionOffset⟩

def joinsUnlocked : List Join → List Join
  | [] => []
  | ⟨kind, table, clauses⟩ :: joins => ⟨kind, table, clausesUnlocked clauses⟩ :: joinsUnlocked joins

def clausesUnlocked : List Clause → List Clause
  | [] => []
  | ⟨connective, condition⟩ :: clauses => ⟨connective, condition.unlocked⟩ :: clausesUnlocked clauses

def Condition.unlocked : Condition → Condition
  | .compare column op operand => .compare column op operand
  | .compareColumns first op second => .compareColumns first op second
  | .among column operands negated => .among column operands negated
  | .isNull column negated => .isNull column negated
  | .between column low high negated => .between column low high negated
  | .group clauses => .group (clausesUnlocked clauses)
  | .raw sql bindings => .raw sql bindings
  | .existsRow query negated => .existsRow query.unlocked negated
  | .amongRows column query negated => .amongRows column query.unlocked negated
  | .comparePart part column op operand => .comparePart part column op operand

def branchesUnlocked : List Branch → List Branch
  | [] => []
  | ⟨query, keepAll⟩ :: branches => ⟨query.unlocked, keepAll⟩ :: branchesUnlocked branches
end

namespace Query

lemma isLocked_eq (q : Query) :
    q.isLocked =
      (joinsLocked q.joins || (clausesLocked q.clauses || (q.lock.isSome || branchesLocked q.branches))) := by
  cases q
  rw [isLocked]

lemma unlocked_eq (q : Query) :
    q.unlocked = { q with
      joins := joinsUnlocked q.joins
      clauses := clausesUnlocked q.clauses
      lock := none
      branches := branchesUnlocked q.branches } := by
  cases q
  rw [unlocked]

end Query

mutual
lemma Query.isLocked_unlocked : ∀ q : Query, q.unlocked.isLocked = false
  | ⟨_, _, _, _, joins, clauses, _, _, _, _, _, _, branches, _, _, _⟩ => by
    rw [Query.unlocked, Query.isLocked, joinsLocked_unlocked, clausesLocked_unlocked, branchesLocked_unlocked]
    rfl

lemma joinsLocked_unlocked : ∀ joins : List Join, joinsLocked (joinsUnlocked joins) = false
  | [] => rfl
  | ⟨_, _, clauses⟩ :: joins => by
    rw [joinsUnlocked, joinsLocked, clausesLocked_unlocked, joinsLocked_unlocked]
    rfl

lemma clausesLocked_unlocked : ∀ clauses : List Clause, clausesLocked (clausesUnlocked clauses) = false
  | [] => rfl
  | ⟨_, condition⟩ :: clauses => by
    rw [clausesUnlocked, clausesLocked, Condition.isLocked_unlocked, clausesLocked_unlocked]
    rfl

lemma Condition.isLocked_unlocked : ∀ c : Condition, c.unlocked.isLocked = false
  | .compare _ _ _ => rfl
  | .compareColumns _ _ _ => rfl
  | .among _ _ _ => rfl
  | .isNull _ _ => rfl
  | .between _ _ _ _ => rfl
  | .group clauses => clausesLocked_unlocked clauses
  | .raw _ _ => rfl
  | .existsRow query _ => query.isLocked_unlocked
  | .amongRows _ query _ => query.isLocked_unlocked
  | .comparePart _ _ _ _ => rfl

lemma branchesLocked_unlocked : ∀ branches : List Branch, branchesLocked (branchesUnlocked branches) = false
  | [] => rfl
  | ⟨query, _⟩ :: branches => by
    rw [branchesUnlocked, branchesLocked, query.isLocked_unlocked, branchesLocked_unlocked]
    rfl
end

lemma isEmpty_joinsUnlocked (joins : List Join) : (joinsUnlocked joins).isEmpty = joins.isEmpty := by
  cases joins with
  | nil => rfl
  | cons join joins => cases join; rfl

lemma isEmpty_clausesUnlocked (clauses : List Clause) : (clausesUnlocked clauses).isEmpty = clauses.isEmpty := by
  cases clauses with
  | nil => rfl
  | cons clause clauses => cases clause; rfl

/-! ### selecting -/

namespace Dialect

open Compiled (Refuses)

variable (d : Dialect)

/-- The lock of a query leaves no text in the lenient dialect. -/
lemma refuses_lock (lock : Option Lock) :
    Refuses (d.strictness.refuses lock.isSome) (lock.elim (pure "") d.lock) (pure "") := by
  obtain ⟨policy, strictness⟩ := d
  cases lock with
  | none => rfl
  | some l =>
    cases strictness with
    | strict => exact ⟨_, rfl, .inr rfl⟩
    | lenient => rfl

lemma refuses_select_of_parts {q : Query}
    (hjoins : Refuses (d.strictness.refuses (joinsLocked q.joins)) (d.joinFragments q.joins)
      (d.lenient.joinFragments (joinsUnlocked q.joins)))
    (hclauses : Refuses (d.strictness.refuses (clausesLocked q.clauses)) (d.clauseFragments q.clauses)
      (d.lenient.clauseFragments (clausesUnlocked q.clauses)))
    (hbranches : Refuses (d.strictness.refuses (branchesLocked q.branches)) (d.branchFragments q.branches)
      (d.lenient.branchFragments (branchesUnlocked q.branches))) :
    Refuses (d.strictness.refuses q.isLocked) (d.select q) (d.lenient.select q.unlocked) := by
  rw [select_eq, select_eq, Query.isLocked_eq, Query.unlocked_eq]
  simp only [Strictness.refuses_or]
  refine .after _ fun aggregate => hjoins.bind fun joins => hclauses.bind fun conditions => ?_
  exact .after _ fun havings => (d.refuses_lock q.lock).bind fun lock => hbranches.andThen fun branches => rfl

mutual
/-- **A strict dialect refuses a query exactly if there is a lock in it**, and otherwise both dialects compile it as
the lenient one does without its locks. -/
theorem refuses_select :
    ∀ q : Query, Refuses (d.strictness.refuses q.isLocked) (d.select q) (d.lenient.select q.unlocked)
  | ⟨_, _, _, _, joins, clauses, _, _, _, _, _, _, branches, _, _, _⟩ =>
    d.refuses_select_of_parts (refuses_joinFragments joins) (refuses_clauseFragments clauses)
      (refuses_branchFragments branches)

theorem refuses_joinFragments :
    ∀ joins : List Join, Refuses (d.strictness.refuses (joinsLocked joins)) (d.joinFragments joins)
      (d.lenient.joinFragments (joinsUnlocked joins))
  | [] => rfl
  | ⟨kind, table, clauses⟩ :: joins => by
    rw [joinsLocked, Strictness.refuses_or]
    refine (refuses_clauseFragments clauses).bind fun conditions => ?_
    exact (refuses_joinFragments joins).andThen fun others => rfl

theorem refuses_clauseFragments :
    ∀ clauses : List Clause, Refuses (d.strictness.refuses (clausesLocked clauses)) (d.clauseFragments clauses)
      (d.lenient.clauseFragments (clausesUnlocked clauses))
  | [] => rfl
  | ⟨connective, condition⟩ :: clauses => by
    rw [clausesLocked, Strictness.refuses_or]
    refine (refuses_condition condition).bind fun first => ?_
    exact (refuses_clauseFragments clauses).andThen fun others => rfl

theorem refuses_condition :
    ∀ c : Condition, Refuses (d.strictness.refuses c.isLocked) (d.condition c) (d.lenient.condition c.unlocked)
  | .compare _ _ _ => rfl
  | .compareColumns _ _ _ => rfl
  | .among _ _ _ => rfl
  | .isNull _ _ => rfl
  | .between _ _ _ _ => rfl
  | .group clauses => by
    rw [Condition.isLocked, Condition.unlocked, condition, condition, isEmpty_clausesUnlocked]
    split_ifs
    · exact .error _ _
    · exact (refuses_clauseFragments clauses).andThen fun conditions => rfl
  | .raw _ _ => rfl
  | .existsRow query _ => (refuses_select query).andThen fun inner => rfl
  | .amongRows _ query _ => (refuses_select query).andThen fun inner => rfl
  | .comparePart _ _ _ _ => rfl

theorem refuses_branchFragments :
    ∀ branches : List Branch, Refuses (d.strictness.refuses (branchesLocked branches)) (d.branchFragments branches)
      (d.lenient.branchFragments (branchesUnlocked branches))
  | [] => rfl
  | ⟨query, keepAll⟩ :: branches => by
    rw [branchesLocked, Strictness.refuses_or]
    refine (refuses_select query).bind fun inner => ?_
    exact (refuses_branchFragments branches).andThen fun others => rfl
end

end Dialect

/-! ### changing -/

/-- Whether a change of the rows of a query meets a lock: it reads the whole query if it needs the identifiers of the
rows, and only the clauses otherwise. -/
def Query.locksChange (q : Query) : Bool :=
  if !q.joins.isEmpty || q.limit.isSome then q.isLocked else clausesLocked q.clauses

/-- Whether a request meets a lock. -/
def Request.meetsLock : Request → Bool
  | .select query => query.isLocked
  | .update query _ => query.locksChange
  | .delete query => query.locksChange
  | .insert _ _ => false
  | .insertOrIgnore _ _ => false
  | .insertGetId _ _ _ => false
  | .upsert _ _ _ _ => false
  | .truncate _ => false

def Request.unlocked : Request → Request
  | .select query => .select query.unlocked
  | .insert query rows => .insert query.unlocked rows
  | .insertOrIgnore query rows => .insertOrIgnore query.unlocked rows
  | .insertGetId query values sequence => .insertGetId query.unlocked values sequence
  | .upsert query rows uniqueBy assignments => .upsert query.unlocked rows uniqueBy assignments
  | .update query values => .update query.unlocked values
  | .delete query => .delete query.unlocked
  | .truncate query => .truncate query.unlocked

namespace Dialect

open Compiled (Refuses)

lemma rowIdQuery?_unlocked (q : Query) : rowIdQuery? q.unlocked = (rowIdQuery? q).map Query.unlocked := by
  obtain ⟨source, columns, distinct, aggregate, joins, clauses, groups, havings, orders, limit, offset, lock,
    branches, unionOrders, unionLimit, unionOffset⟩ := q
  rcases source with - | (sql | name)
  · rfl
  · rfl
  · rw [rowIdQuery?, rowIdQuery?, Option.map_map]
    rfl

lemma isLocked_of_rowIdQuery? {q rows : Query} (h : rowIdQuery? q = some rows) : rows.isLocked = q.isLocked := by
  unfold rowIdQuery? at h
  split at h
  · obtain ⟨label, -, rfl⟩ := Option.map_eq_some_iff.1 h
    rw [Query.isLocked_eq, Query.isLocked_eq]
  · cases h

variable (d : Dialect)

lemma target_unlocked (q : Query) : d.lenient.target q.unlocked = d.target q := by
  rw [Query.unlocked_eq]
  rfl

lemma insert_unlocked (q : Query) (rows : List RowValues) : d.lenient.insert q.unlocked rows = d.insert q rows := by
  rw [insert, insert, target_unlocked]
  rfl

lemma insertOrIgnore_unlocked (q : Query) (rows : List RowValues) :
    d.lenient.insertOrIgnore q.unlocked rows = d.insertOrIgnore q rows := by
  rw [insertOrIgnore, insertOrIgnore, target_unlocked]
  rfl

lemma upsert_unlocked (q : Query) (rows : List RowValues) (uniqueBy : List String)
    (assignments : List UpsertAssignment) :
    d.lenient.upsert q.unlocked rows uniqueBy assignments = d.upsert q rows uniqueBy assignments := by
  rw [upsert, upsert, insert_unlocked]
  rfl

lemma refuses_restricted (q : Query) (change : Fragment) :
    Refuses (d.strictness.refuses q.locksChange) (d.restricted q change)
      (d.lenient.restricted q.unlocked change) := by
  have hjoins : q.unlocked.joins.isEmpty = q.joins.isEmpty := by
    rw [Query.unlocked_eq, isEmpty_joinsUnlocked]
  have hlimit : q.unlocked.limit = q.limit := by rw [Query.unlocked_eq]
  have hclauses : q.unlocked.clauses = clausesUnlocked q.clauses := by rw [Query.unlocked_eq]
  rw [restricted, restricted, Query.locksChange, hjoins, hlimit, hclauses, rowIdQuery?_unlocked]
  split_ifs
  · cases hrows : rowIdQuery? q with
    | none => exact .error _ _
    | some rows =>
      rw [← isLocked_of_rowIdQuery? hrows]
      exact (d.refuses_select rows).andThen fun inner => rfl
  · exact (d.refuses_clauseFragments q.clauses).andThen fun conditions => rfl

lemma sortAssignments_lenient (entries : List (String × Operand)) (groups : JsonGroups) :
    d.lenient.sortAssignments entries groups = d.sortAssignments entries groups := by
  induction entries generalizing groups with
  | nil => rfl
  | cons entry entries ih =>
    obtain ⟨key, operand⟩ := entry
    simp only [sortAssignments, ih]
    rfl

lemma assignments_lenient (values : RowValues) : d.lenient.assignments values = d.assignments values := by
  rw [assignments, assignments, sortAssignments_lenient]
  rfl

lemma refuses_update (q : Query) (values : RowValues) :
    Refuses (d.strictness.refuses q.locksChange) (d.update q values) (d.lenient.update q.unlocked values) := by
  rw [update, update, target_unlocked, assignments_lenient]
  exact .after _ fun table => .after _ fun assigned => d.refuses_restricted q _

lemma refuses_delete (q : Query) :
    Refuses (d.strictness.refuses q.locksChange) (d.delete q) (d.lenient.delete q.unlocked) := by
  rw [delete, delete, target_unlocked]
  exact .after _ fun table => d.refuses_restricted q _

end Dialect

/-- The configuration with the same strictness for queries and for schema changes. -/
def ConnectionConfig.withStrictness (c : ConnectionConfig) (s : Strictness) : ConnectionConfig :=
  { c with options := { c.options with queries := s, schemas := s } }

/-- **A strict dialect refuses a request exactly if the request meets a lock**, and otherwise both dialects compile it
as the lenient one does without its locks. -/
theorem Request.refuses_compile (c : ConnectionConfig) (request : Request) :
    Compiled.Refuses (c.options.queries.refuses request.meetsLock) (request.compile c)
      (request.unlocked.compile (c.withStrictness .lenient)) := by
  have hd : (c.withStrictness .lenient).queryDialect = c.queryDialect.lenient := rfl
  -- inserts and truncations only read the table of the query
  cases request with
  | select query =>
    exact (c.queryDialect.refuses_select query).andThen fun f => rfl
  | insert query rows =>
    rw [unlocked, compile, compile, hd, Dialect.insert_unlocked]
    rfl
  | insertOrIgnore query rows =>
    rw [unlocked, compile, compile, hd, Dialect.insertOrIgnore_unlocked]
    rfl
  | insertGetId query values sequence =>
    rw [unlocked, compile, compile, hd, Dialect.insert_unlocked, Dialect.target_unlocked]
    rfl
  | upsert query rows uniqueBy assignments =>
    rw [unlocked, compile, compile, hd, Dialect.upsert_unlocked]
    rfl
  | update query values =>
    exact (c.queryDialect.refuses_update query values).andThen fun f => rfl
  | delete query =>
    exact (c.queryDialect.refuses_delete query).andThen fun f => rfl
  | truncate query =>
    rw [unlocked, compile, compile, hd, Dialect.truncate, Dialect.truncate, Dialect.target_unlocked]
    rfl

end WarehouseSql
