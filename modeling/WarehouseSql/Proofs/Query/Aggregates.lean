import WarehouseSql.Proofs.Fragment.Nesting
import WarehouseSql.Proofs.Query.Restrictions

/-!
Computing aggregates.  A query with an aggregate compiles exactly if the query for its rows does, and its statement
follows from the one for the rows and from what the aggregate ranges over: the call takes the place of the list of
columns, or stands around the whole statement if there are branches or conditions on groups (`Dialect.Computes`).  **An
aggregate ranges over its own columns, once each if the query is distinct, unless other distinct columns are listed**
(`Dialect.computes_own_iff`): a list of distinct columns takes the place of the aggregate's own in any case.
-/

namespace WarehouseSql

def Reference.isStar : Reference → Bool
  | .raw sql => sql == "*"
  | .name n => n == "*"

/-- The word before the columns of which repeated values are dropped. -/
def Distinct.word (distinct : Distinct) : String := if distinct.isSet then "distinct " else ""

/-- The call of an aggregate over a range, as the head of a select. -/
def Aggregate.call (a : Aggregate) (range : String) : String :=
  "select " ++ Text.trim a.function ++ "(" ++ range ++ ") as \"aggregate\""

/-- The query for the rows that an aggregate is computed from. -/
def Query.rows (q : Query) : Query := { q with aggregate := none }

namespace Dialect

open Fragment

/-- An aggregate is computed over a range from the rows of a query. -/
structure Computes (d : Dialect) (q : Query) (a : Aggregate) (range : String) (rows statement : Fragment) : Prop where
  /-- The call takes the place of the list of columns. -/
  plain : q.branches = [] → q.havings = [] → ∃ rest, rows.sql = Text.trim (d.columnList q) ++ rest ∧
    statement = ⟨a.call range ++ rest, rows.bindings⟩
  /-- The rows of branches or of groups under conditions are a table that the call reads from. -/
  around : q.branches ≠ [] ∨ q.havings ≠ [] →
    statement = Fragment.text (a.call range ++ " from (") ++ rows
      ++ Fragment.text (") as " ++ d.policy.table (.name "temp_table"))

/-- Distinctness keeps an aggregate from its own columns: other ones are listed, or the columns are written like the
star, which is never distinct (a star in quotes loses them where names are folded). -/
def Displaces (d : Dialect) (distinct : Distinct) (columns : List Reference) : Prop :=
  match distinct with
  | .off => False
  | .all => d.policy.columns columns = "*"
  | .columns names => d.policy.columnNames names ≠ d.policy.columns columns

variable {d : Dialect} {q : Query} {a : Aggregate} {range range' : String} {rows statement : Fragment}

/-! ### calls -/

lemma call_inj : a.call range = a.call range' ↔ range = range' := by
  constructor
  · intro h
    simpa [Aggregate.call, String.append_assoc] using h
  · rintro rfl
    rfl

lemma edged_call (a : Aggregate) (range : String) : Edged (a.call range) := by
  have hbegins : Begins "select " := by decide
  have hends : Ends ") as \"aggregate\"" := by decide
  exact ⟨(((hbegins.append _).append _).append _).append _, hends.append _⟩

/-- A statement tells what its aggregate ranges over. -/
lemma Computes.iff_eq (h : d.Computes q a range rows statement) :
    d.Computes q a range' rows statement ↔ range' = range := by
  refine ⟨fun h' => ?_, fun hrange => hrange ▸ h⟩
  by_cases hplain : q.branches = [] ∧ q.havings = []
  · obtain ⟨rest, hrows, hstatement⟩ := h.plain hplain.1 hplain.2
    obtain ⟨rest', hrows', hstatement'⟩ := h'.plain hplain.1 hplain.2
    obtain rfl : rest = rest' := (String.append_right_inj _).1 (hrows.symm.trans hrows')
    have hsql := congrArg sql (hstatement'.symm.trans hstatement)
    exact call_inj.1 ((String.append_left_inj _).1 hsql)
  · have haround : q.branches ≠ [] ∨ q.havings ≠ [] := not_and_or.1 hplain
    have hsql := congrArg sql ((h'.around haround).symm.trans (h.around haround))
    simp only [sql_append, sql_text, String.append_assoc] at hsql
    simpa only [← String.append_assoc, String.append_left_inj, call_inj] using hsql

/-! ### compiling -/

/-- The compiled parts of a query without its aggregate. -/
def rowParts (d : Dialect) (q : Query) : Compiled Parts := do
  let joins ← d.joinFragments q.joins
  let conditions ← d.clauseFragments q.clauses
  let havings ← d.havingPart q.havings
  let lock ← q.lock.elim (pure "") d.lock
  let branches ← d.branchFragments q.branches
  return { aggregate := none, joins := .join " " joins, clauses := wherePart conditions, havings, lock := .text lock,
           branches }

lemma branches_eq_nil_iff {fragments : List Fragment} {branches : List Branch}
    (h : d.branchFragments branches = .ok fragments) : fragments = [] ↔ branches = [] := by
  cases branches with
  | nil =>
    obtain rfl : [] = fragments := Except.ok.inj h
    exact iff_of_true rfl rfl
  | cons branch branches =>
    obtain ⟨query, keepAll⟩ := branch
    rw [branchFragments] at h
    obtain ⟨inner, -, h⟩ := Compiled.bind_eq_ok.1 h
    obtain ⟨others, -, h⟩ := Compiled.bind_eq_ok.1 h
    obtain rfl := Except.ok.inj h
    exact iff_of_false (List.cons_ne_nil _ _) (List.cons_ne_nil _ _)

lemma branches_rowParts {parts : Parts} (h : d.rowParts q = .ok parts) : parts.branches = [] ↔ q.branches = [] := by
  obtain ⟨joins, -, h⟩ := Compiled.bind_eq_ok.1 h
  obtain ⟨conditions, -, h⟩ := Compiled.bind_eq_ok.1 h
  obtain ⟨havings, -, h⟩ := Compiled.bind_eq_ok.1 h
  obtain ⟨lock, -, h⟩ := Compiled.bind_eq_ok.1 h
  obtain ⟨branches, hbranches, h⟩ := Compiled.bind_eq_ok.1 h
  obtain rfl := Except.ok.inj h
  exact branches_eq_nil_iff hbranches

lemma select_eq_rowParts (d : Dialect) (q : Query) :
    d.select q = do
      let aggregate ← q.aggregate.mapM (d.aggregate q.distinct)
      let parts ← d.rowParts q
      return d.assemble q { parts with aggregate } := by
  rw [select_eq]
  simp only [rowParts, bind_assoc, pure_bind]
  rfl

lemma select_rows (d : Dialect) (q : Query) :
    d.select q.rows = d.rowParts q >>= fun parts => .ok (d.unitedSelect q parts (d.columnList q)) := by
  rw [select_eq_rowParts]
  rfl

/-- The head of a select without branches says nothing about what follows it. -/
lemma exists_singleSelect_eq (d : Dialect) (q : Query) (parts : Parts) :
    ∃ rest : Fragment, ∀ head, Text.trim head ≠ "" →
      d.singleSelect q parts head = Fragment.text (Text.trim head) ++ rest := by
  obtain ⟨others, hothers⟩ : ∃ others, ∀ head, d.singleSelect q parts head = sentence (Fragment.text head :: others) :=
    ⟨_, fun _ => rfl⟩
  refine ⟨⟨String.join (others.map ending), others.flatMap bindings⟩, fun head hhead => ?_⟩
  have htext : Text.trim (Fragment.text head).sql ≠ "" := hhead
  rw [hothers, sentence_cons htext]
  rfl

lemma trim_columnList_ne_empty (d : Dialect) (q : Query) : Text.trim (d.columnList q) ≠ "" := by
  rw [columnList]
  refine Text.trim_append_ne_empty (c := 's') ?_ (by decide) _
  cases q.distinct.isSet <;> decide

/-- The aggregate is computed from the rows. -/
lemma computes_assemble {parts : Parts} (hparts : d.rowParts q = .ok parts) :
    d.Computes q a range (d.unitedSelect q parts (d.columnList q))
      (d.assemble q { parts with aggregate := some (a.call range) }) := by
  have hbranches : parts.branches.isEmpty = true ↔ q.branches = [] := by
    rw [List.isEmpty_iff, branches_rowParts hparts]
  have hassemble : d.assemble q { parts with aggregate := some (a.call range) } =
      if parts.branches.isEmpty && q.havings.isEmpty then d.unitedSelect q parts (a.call range)
      else Fragment.text (a.call range ++ " from (") ++ d.unitedSelect q parts (d.columnList q)
        ++ Fragment.text (") as " ++ d.policy.table (.name "temp_table")) := rfl
  constructor
  · intro hnone hhavings
    -- the call takes the place of the columns in the same select
    obtain ⟨rest, hrest⟩ := exists_singleSelect_eq d q parts
    have hunited : ∀ head, d.unitedSelect q parts head = d.singleSelect q parts head := fun head =>
      if_pos (hbranches.2 hnone)
    have hcall : Text.trim (a.call range) = a.call range := (edged_call a range).trim_eq
    have hne : Text.trim (a.call range) ≠ "" := by
      intro hempty
      have hbegins := (edged_call a range).begins
      rw [← hcall, hempty] at hbegins
      exact absurd hbegins (by decide)
    have hempty : (parts.branches.isEmpty && q.havings.isEmpty) = true := by
      rw [hbranches.2 hnone, hhavings]
      rfl
    refine ⟨rest.sql, ?_, ?_⟩
    · rw [hunited, hrest _ (trim_columnList_ne_empty d q)]
      rfl
    · rw [hassemble, if_pos hempty, hunited, hunited, hrest _ hne, hrest _ (trim_columnList_ne_empty d q), hcall]
      rfl
  · intro haround
    rw [hassemble, if_neg]
    rw [Bool.and_eq_true, hbranches, List.isEmpty_iff]
    exact not_and_or.2 haround

/-- **An aggregate is computed from the rows of its query**, which compiles if the query for them does. -/
lemma computes_select (ha : q.aggregate = some a) (hfunction : isFunctionName (Text.trim a.function).toList = true) :
    (∀ error, d.select q = .error error ↔ d.select q.rows = .error error) ∧
    ∀ statement, d.select q = .ok statement → ∃ rows, d.select q.rows = .ok rows ∧
      d.Computes q a (d.aggregateRange q.distinct a.columns) rows statement := by
  have haggregate : d.aggregate q.distinct a = .ok (a.call (d.aggregateRange q.distinct a.columns)) := if_pos hfunction
  have hselect : d.select q = d.rowParts q >>= fun parts =>
      .ok (d.assemble q { parts with aggregate := some (a.call (d.aggregateRange q.distinct a.columns)) }) := by
    rw [select_eq_rowParts, ha, Option.mapM_some, haggregate]
    rfl
  rw [hselect, select_rows]
  cases hparts : d.rowParts q with
  | error cause =>
    refine ⟨fun error => Iff.rfl, fun statement h => ?_⟩
    cases h
  | ok parts =>
    refine ⟨fun error => ⟨fun h => ?_, fun h => ?_⟩, fun statement h => ?_⟩
    · cases h
    · cases h
    · obtain rfl := Except.ok.inj h
      exact ⟨_, rfl, computes_assemble hparts⟩

/-! ### ranges -/

/-- The range is the aggregate's own columns unless distinctness displaces them. -/
lemma own_eq_aggregateRange_iff {distinct : Distinct} {columns : List Reference} (hcolumns : columns ≠ []) :
    distinct.word ++ d.policy.columns columns = d.aggregateRange distinct columns ↔ ¬ d.Displaces distinct columns := by
  have hempty : columns.isEmpty = false := List.isEmpty_eq_false_iff.2 hcolumns
  cases distinct with
  | off => simp [Distinct.word, Distinct.isSet, aggregateRange, Displaces, hempty]
  | all =>
    by_cases hstar : d.policy.columns columns = "*"
    · simp [Distinct.word, Distinct.isSet, aggregateRange, Displaces, hempty, hstar]
    · simp [Distinct.word, Distinct.isSet, aggregateRange, Displaces, hempty, hstar]
  | columns names => simp [Distinct.word, Distinct.isSet, aggregateRange, Displaces, eq_comm]

/-- **An aggregate ranges over its own columns, each value once if its query is distinct, unless distinctness displaces
them.**  A list of distinct columns takes their place in any case.  The query compiles if the one for its rows does. -/
theorem computes_own_iff (d : Dialect) (q : Query) (a : Aggregate) (ha : q.aggregate = some a)
    (hfunction : isFunctionName (Text.trim a.function).toList = true) :
    (∀ error, d.select q = .error error ↔ d.select q.rows = .error error) ∧
    ∀ statement, d.select q = .ok statement → ∃ rows, d.select q.rows = .ok rows ∧
      ((∃ column ∈ a.columns, column.isStar = false) →
        (d.Computes q a (q.distinct.word ++ d.policy.columns a.columns) rows statement ↔
          ¬ d.Displaces q.distinct a.columns)) ∧
      ∀ names, q.distinct = .columns names →
        d.Computes q a ("distinct " ++ d.policy.columnNames names) rows statement := by
  obtain ⟨herror, hok⟩ := computes_select (d := d) ha hfunction
  refine ⟨herror, fun statement hstatement => ?_⟩
  obtain ⟨rows, hrows, hcomputes⟩ := hok statement hstatement
  refine ⟨rows, hrows, ?_, ?_⟩
  · rintro ⟨column, hcolumn, -⟩
    rw [hcomputes.iff_eq]
    exact own_eq_aggregateRange_iff (List.ne_nil_of_mem hcolumn)
  · intro names hnames
    rw [hcomputes.iff_eq, hnames]
    rfl

/-- How many different guests there are in the rooms of floors above the first. -/
def guestsAbove : Query :=
  { Query.empty with
    source := some (.name "room")
    columns := [.name "guest"]
    distinct := .all
    aggregate := some ⟨" count ", [.name "guest"]⟩
    groups := [.name "floor"]
    havings := [⟨.and, .compare (.name "floor") ">" (.value (.int 1))⟩] }

theorem computes_own_iff_guestsAbove :
    let d : Dialect := ⟨{}, .lenient⟩
    let rows : Fragment := ⟨"select distinct GUEST from ROOM group by FLOOR having FLOOR > ?", [.int 1]⟩
    let statement : Fragment :=
      ⟨"select count(distinct GUEST) as \"aggregate\" from (" ++ rows.sql ++ ") as TEMP_TABLE", [.int 1]⟩
    d.select guestsAbove = .ok statement ∧ d.select guestsAbove.rows = .ok rows ∧
      d.Computes guestsAbove ⟨" count ", [.name "guest"]⟩ "distinct GUEST" rows statement := by
  intro d rows statement
  have hstatement : d.select guestsAbove = .ok statement := by decide +kernel
  have hrows : d.select guestsAbove.rows = .ok rows := by decide +kernel
  have hguest : d.policy.columns [.name "guest"] = "GUEST" := by decide +kernel
  obtain ⟨rows', hrows', hown, -⟩ :=
    (computes_own_iff d guestsAbove ⟨" count ", [.name "guest"]⟩ rfl (by decide)).2 statement hstatement
  obtain rfl : rows = rows' := Except.ok.inj (hrows.symm.trans hrows')
  have hcomputes := (hown ⟨.name "guest", List.mem_singleton_self _, by decide⟩).2
  rw [hguest] at hcomputes
  refine ⟨hstatement, hrows, hcomputes fun hdisplaced => ?_⟩
  exact absurd (hguest.symm.trans hdisplaced) (by decide)

/-- The different names of guests whose addresses are counted. -/
def namedAddresses : Query :=
  { Query.empty with
    source := some (.name "guest")
    distinct := .columns ["name"]
    aggregate := some ⟨"count", [.name "email"]⟩ }

/-- Names are counted where addresses are to be. -/
theorem exists_columns_displaced :
    let d : Dialect := ⟨{}, .lenient⟩
    let a : Aggregate := ⟨"count", [.name "email"]⟩
    let rows : Fragment := .text "select distinct * from GUEST"
    let statement : Fragment := .text "select count(distinct NAME) as \"aggregate\" from GUEST"
    namedAddresses.aggregate = some a ∧ d.select namedAddresses.rows = .ok rows ∧
      d.select namedAddresses = .ok statement ∧
      d.Computes namedAddresses a "distinct NAME" rows statement ∧
      ¬ d.Computes namedAddresses a (namedAddresses.distinct.word ++ d.policy.columns a.columns) rows statement := by
  intro d a rows statement
  have hrows : d.select namedAddresses.rows = .ok rows := by decide +kernel
  have hstatement : d.select namedAddresses = .ok statement := by decide +kernel
  have hrange : d.aggregateRange namedAddresses.distinct a.columns = "distinct NAME" := by decide +kernel
  have hown : namedAddresses.distinct.word ++ d.policy.columns a.columns = "distinct EMAIL" := by decide +kernel
  obtain ⟨rows', hrows', hcomputes⟩ :=
    (computes_select (d := d) (q := namedAddresses) rfl (by decide)).2 statement hstatement
  obtain rfl : rows = rows' := Except.ok.inj (hrows.symm.trans hrows')
  rw [hrange] at hcomputes
  refine ⟨rfl, hrows, hstatement, hcomputes, ?_⟩
  rw [hcomputes.iff_eq, hown]
  decide

end Dialect

end WarehouseSql
