import Mathlib.Data.List.Sort
import WarehouseSql.Query.Change

/-!
The rows that an insert makes.  An `Insertion` is what an insert statement says: one row of default values, or tuples
with an operand for each of the columns; `Insertion.rows` are the rows that it makes.  **An insert makes all given
rows, in their order, unless the first one is empty and not the only one** (`Dialect.insertsAll_iff`).  After an empty
first row the others are not looked at, and one row of default values is all that is made
(`Dialect.exists_row_lost`).
-/

namespace WarehouseSql

/-! ### what an insert statement says -/

namespace Operand

/-- The entry of an operand in a tuple: a placeholder or raw SQL. -/
def entry : Operand → String
  | .raw sql => sql
  | .value _ => "?"

def value? : Operand → Option Value
  | .raw _ => none
  | .value v => some v

lemma sql_operand (o : Operand) : (Fragment.operand o).sql = o.entry := by
  cases o <;> rfl

lemma bindings_operand (o : Operand) : (Fragment.operand o).bindings = o.value?.toList := by
  cases o <;> rfl

end Operand

/-- What an insert statement says: one row of default values, or tuples with an operand for each of some columns. -/
inductive Insertion where
  | defaults
  | listed (columns : List String) (tuples : List (List Operand))

namespace Insertion

/-- Whether each tuple has one operand for each column. -/
def IsAligned : Insertion → Prop
  | .defaults => True
  | .listed columns tuples => ∀ tuple ∈ tuples, tuple.length = columns.length

/-- The rows that are made, each with its operands by column. -/
def rows : Insertion → List (List (String × Operand))
  | .defaults => [[]]
  | .listed columns tuples => tuples.map columns.zip

def tupleText (tuple : List Operand) : String := "(" ++ Text.commaList (tuple.map Operand.entry) ++ ")"

/-- The insertion in SQL, after the words with which the statement begins. -/
def written (policy : Policy) (table : String) : Insertion → Fragment
  | .defaults => ⟨"into " ++ table ++ " default values", []⟩
  | .listed columns tuples =>
    ⟨"into " ++ table ++ " (" ++ policy.columnNames columns ++ ") values " ++ Text.commaList (tuples.map tupleText),
      tuples.flatMap fun tuple => tuple.filterMap Operand.value?⟩

/-- One row of default values is not written like tuples. -/
lemma eq_defaults_of_written {policy : Policy} {table : String} {insertion : Insertion}
    (h : insertion.written policy table = defaults.written policy table) : insertion = defaults := by
  cases insertion with
  | defaults => rfl
  | listed columns tuples =>
    have hsql := congrArg String.toList (congrArg Fragment.sql h)
    simp only [written, String.append_assoc, String.toList_append, List.append_cancel_left_eq] at hsql
    exact absurd hsql (by simp)

end Insertion

/-! ### columns of records -/

namespace Record

variable {α : Type} (r s : Record α)

lemma pairwise_keys : r.keys.Pairwise (· < ·) := List.pairwise_map.2 r.inOrder

lemma zip_keys_values : r.keys.zip r.values = r.entries := by
  rw [keys, values, List.zip_map']
  exact List.map_id r.entries

lemma length_values : r.values.length = r.keys.length := by
  rw [values, keys, List.length_map, List.length_map]

/-- Names are kept in order, so that records with the same names list them alike. -/
lemma keys_eq_iff : r.keys = s.keys ↔ ∀ name, name ∈ r.keys ↔ name ∈ s.keys := by
  constructor
  · intro h name
    rw [h]
  · exact r.pairwise_keys.eq_of_mem_iff s.pairwise_keys

end Record

/-- Whether rows have the same columns, each the columns of each. -/
def SameColumns (rows : List RowValues) : Prop :=
  ∀ a ∈ rows, ∀ b ∈ rows, ∀ column, column ∈ a.keys ↔ column ∈ b.keys

lemma sameColumns_cons_iff {first : RowValues} {rest : List RowValues} :
    SameColumns (first :: rest) ↔ ∀ row ∈ first :: rest, row.keys = first.keys := by
  constructor
  · intro h row hrow
    exact (row.keys_eq_iff first).2 (h row hrow first List.mem_cons_self)
  · intro h a ha b hb column
    rw [h a ha, h b hb]

namespace Dialect

variable {d : Dialect} {table : String} {first : RowValues} {rest : List RowValues}

/-! ### inserting -/

lemma insertBody_of_isEmpty (h : first.isEmpty = true) :
    d.insertBody table (first :: rest) = .ok (Insertion.defaults.written d.policy table) := by
  rw [insertBody, if_pos h]
  rfl

lemma insertBody_of_sameColumns (hfirst : first.isEmpty = false) (h : SameColumns (first :: rest)) :
    d.insertBody table (first :: rest) =
      .ok ((Insertion.listed first.keys ((first :: rest).map Record.values)).written d.policy table) := by
  have hkeys : ¬ ((first :: rest).any fun row => row.keys != first.keys) = true := by
    rw [List.any_eq_true]
    rintro ⟨row, hrow, hne⟩
    exact bne_iff_ne.1 hne (sameColumns_cons_iff.1 h row hrow)
  have hsql : ∀ tuple : List Operand,
      (Fragment.text "(" ++ Fragment.operands tuple ++ Fragment.text ")").sql = Insertion.tupleText tuple := by
    intro tuple
    simp [Fragment.operands, Fragment.join, Insertion.tupleText, Text.commaList, Operand.sql_operand,
      Function.comp_def]
  have hbindings : ∀ tuple : List Operand,
      (Fragment.text "(" ++ Fragment.operands tuple ++ Fragment.text ")").bindings =
        tuple.filterMap Operand.value? := by
    intro tuple
    simp [Fragment.operands, Fragment.join, List.flatMap_map, Operand.bindings_operand, List.filterMap_eq_flatMap_toList]
  rw [insertBody, hfirst, if_neg Bool.false_ne_true, if_neg hkeys]
  refine congrArg Except.ok ((Fragment.mk.injEq ..).mpr ⟨?_, ?_⟩)
  · simp [Fragment.join, Text.commaList, List.map_map, Function.comp_def, hsql, String.append_assoc]
  · simp [Fragment.join, List.flatMap_map, hbindings]

/-- Rows with different columns are refused. -/
lemma insertBody_of_not_sameColumns (hfirst : first.isEmpty = false) (h : ¬ SameColumns (first :: rest)) :
    d.insertBody table (first :: rest) = .error .unequalColumns := by
  have hkeys : ((first :: rest).any fun row => row.keys != first.keys) = true := by
    by_contra hsame
    refine h (sameColumns_cons_iff.2 fun row hrow => ?_)
    by_contra hne
    exact hsame (List.any_eq_true.2 ⟨row, hrow, bne_iff_ne.2 hne⟩)
  rw [insertBody, hfirst, if_neg Bool.false_ne_true, if_pos hkeys]

/-- What stands after the rows of an upsert. -/
def conflictClause (d : Dialect) (uniqueBy : List String) (assignments : List UpsertAssignment) : Fragment :=
  Fragment.text (" on conflict (" ++ d.policy.columnNames uniqueBy ++ ")")
    ++ if assignments.isEmpty then Fragment.text " do nothing"
      else Fragment.text " do update set " ++ .join ", " (assignments.map d.upsertAssignment)

variable {q : Query}

lemma insert_eq (htarget : d.target q = .ok table) (rows : List RowValues) :
    d.insert q rows = (d.insertBody table rows).map (Fragment.text "insert " ++ ·) := by
  rw [insert, htarget]
  change (d.insertBody table rows >>= fun body => pure (Fragment.text "insert " ++ body)) = _
  cases d.insertBody table rows <;> rfl

lemma insertOrIgnore_eq (htarget : d.target q = .ok table) (rows : List RowValues) :
    d.insertOrIgnore q rows = (d.insertBody table rows).map (Fragment.text "insert or ignore " ++ ·) := by
  rw [insertOrIgnore, htarget]
  change (d.insertBody table rows >>= fun body => pure (Fragment.text "insert or ignore " ++ body)) = _
  cases d.insertBody table rows <;> rfl

lemma upsert_eq (htarget : d.target q = .ok table) (rows : List RowValues) (uniqueBy : List String)
    (assignments : List UpsertAssignment) :
    d.upsert q rows uniqueBy assignments =
      if uniqueBy.isEmpty then .error .noUniqueColumns
      else (d.insertBody table rows).map (Fragment.text "insert " ++ · ++ d.conflictClause uniqueBy assignments) := by
  rw [upsert, insert_eq htarget]
  cases uniqueBy.isEmpty with
  | true => rfl
  | false =>
    cases d.insertBody table rows with
    | error error => rfl
    | ok body =>
      rw [conflictClause]
      cases assignments.isEmpty with
      | true => exact congrArg Except.ok (Fragment.append_assoc ..)
      | false => exact congrArg Except.ok ((Fragment.append_assoc ..).trans (Fragment.append_assoc ..))

/-- What is expected of an insert: it compiles exactly for rows with the same columns, and what it compiles to makes
all the rows, in their order and with all their operands. -/
structure InsertsAll (d : Dialect) (q : Query) (rows : List RowValues) : Prop where
  compiles : (∃ statement, d.insert q rows = .ok statement) ↔ SameColumns rows
  complete : ∀ statement, d.insert q rows = .ok statement →
    ∃ (table : String) (insertion : Insertion), d.target q = .ok table ∧ insertion.IsAligned ∧
      insertion.rows = rows.map Record.entries ∧
      statement = Fragment.text "insert " ++ insertion.written d.policy table

/-- Rows with a column are all inserted. -/
lemma insertsAll_of_not_isEmpty (htarget : d.target q = .ok table) (hfirst : first.isEmpty = false) :
    d.InsertsAll q (first :: rest) := by
  by_cases hsame : SameColumns (first :: rest)
  · have hinsert := insert_eq htarget (first :: rest)
    rw [insertBody_of_sameColumns hfirst hsame] at hinsert
    refine ⟨⟨fun _ => hsame, fun _ => ⟨_, hinsert⟩⟩, fun statement hstatement => ?_⟩
    have hkeys := sameColumns_cons_iff.1 hsame
    refine ⟨table, .listed first.keys ((first :: rest).map Record.values), htarget, ?_, ?_, ?_⟩
    · intro tuple htuple
      obtain ⟨row, hrow, rfl⟩ := List.mem_map.1 htuple
      rw [row.length_values, hkeys row hrow]
    · rw [Insertion.rows, List.map_map]
      refine List.map_congr_left fun row hrow => ?_
      rw [Function.comp_apply, ← hkeys row hrow, row.zip_keys_values]
    · rw [hinsert] at hstatement
      exact (Except.ok.inj hstatement).symm
  · have hinsert := insert_eq htarget (first :: rest)
    rw [insertBody_of_not_sameColumns hfirst hsame] at hinsert
    refine ⟨⟨?_, fun h => absurd h hsame⟩, ?_⟩
    · rintro ⟨statement, hstatement⟩
      rw [hinsert] at hstatement
      cases hstatement
    · intro statement hstatement
      rw [hinsert] at hstatement
      cases hstatement

lemma insert_of_isEmpty (htarget : d.target q = .ok table) (hfirst : first.isEmpty = true) :
    d.insert q (first :: rest) = .ok (Fragment.text "insert " ++ Insertion.defaults.written d.policy table) := by
  rw [insert_eq htarget, insertBody_of_isEmpty hfirst]
  rfl

lemma insertsAll_singleton_of_isEmpty (htarget : d.target q = .ok table) (hfirst : first.isEmpty = true) :
    d.InsertsAll q [first] := by
  have hinsert : d.insert q [first] = _ := insert_of_isEmpty htarget hfirst
  refine ⟨⟨fun _ => sameColumns_cons_iff.2 ?_, fun _ => ⟨_, hinsert⟩⟩, fun statement hstatement => ?_⟩
  · exact List.forall_mem_singleton.2 rfl
  · rw [hinsert] at hstatement
    refine ⟨table, .defaults, htarget, trivial, ?_, (Except.ok.inj hstatement).symm⟩
    rw [Insertion.rows, List.map_singleton, List.isEmpty_iff.1 hfirst]

/-- Of several rows the first of which has no columns not all are inserted. -/
lemma not_insertsAll_of_isEmpty (htarget : d.target q = .ok table) (hfirst : first.isEmpty = true)
    (hrest : rest ≠ []) : ¬ d.InsertsAll q (first :: rest) := by
  intro h
  obtain ⟨table', insertion, htarget', -, hrows, hstatement⟩ := h.complete _ (insert_of_isEmpty htarget hfirst)
  obtain rfl : table = table' := Except.ok.inj (htarget.symm.trans htarget')
  obtain rfl := Insertion.eq_defaults_of_written ((Fragment.append_right_inj _).1 hstatement).symm
  -- one row of default values is written, and there are more
  have hlength := congrArg List.length hrows
  simp only [Insertion.rows, List.length_map, List.length_cons, List.length_nil] at hlength
  exact hrest (List.length_eq_zero_iff.1 (by omega))

/-- **An insert makes all rows, unless the first of several has no columns.**  Then one row of default values is all that
is made, whatever the other rows are.  An insert that passes over rows already there, and one that updates them, make the
same rows with the same operands. -/
theorem insertsAll_iff (d : Dialect) (q : Query) (source : Reference) (hsource : q.source = some source)
    (first : RowValues) (rest : List RowValues) :
    let rows := first :: rest
    let table := d.policy.table source
    (d.InsertsAll q rows ↔ ¬ (first.isEmpty = true ∧ rest ≠ [])) ∧
    (first.isEmpty = true → d.insert q rows = .ok (.text ("insert into " ++ table ++ " default values"))) ∧
    ∃ body : Compiled Fragment,
      d.insert q rows = body.map (Fragment.text "insert " ++ ·) ∧
      d.insertOrIgnore q rows = body.map (Fragment.text "insert or ignore " ++ ·) ∧
      ∀ uniqueBy assignments, d.upsert q rows uniqueBy assignments =
        if uniqueBy.isEmpty then .error .noUniqueColumns
        else body.map (Fragment.text "insert " ++ · ++ d.conflictClause uniqueBy assignments) := by
  intro rows table
  have htarget : d.target q = .ok table := by rw [target, hsource]
  refine ⟨⟨?_, fun h => ?_⟩, fun hfirst => ?_, d.insertBody table rows, insert_eq htarget rows,
    insertOrIgnore_eq htarget rows, upsert_eq htarget rows⟩
  · rintro hall ⟨hfirst, hrest⟩
    exact not_insertsAll_of_isEmpty htarget hfirst hrest hall
  · cases hfirst : first.isEmpty with
    | false => exact insertsAll_of_not_isEmpty htarget hfirst
    | true =>
      have hrest : rest = [] := by
        by_contra hne
        exact h ⟨hfirst, hne⟩
      show d.InsertsAll q (first :: rest)
      rw [hrest]
      exact insertsAll_singleton_of_isEmpty htarget hfirst
  · rw [insert_of_isEmpty htarget hfirst]
    have hwords : "insert " ++ "into " = "insert into " := by decide
    have hsql : "insert " ++ ("into " ++ table ++ " default values") = "insert into " ++ table ++ " default values" := by
      rw [← String.append_assoc, ← String.append_assoc, hwords]
    exact congrArg Except.ok ((Fragment.mk.injEq ..).mpr ⟨hsql, rfl⟩)

/-- Guests to be inserted: one whose number is the next of a sequence, and one whose name is a question. -/
def twoGuests : List RowValues :=
  [.ofList [("id", .raw "guest_seq.nextval"), ("name", .value (.text "Ada"))],
    .ofList [("name", .value (.text "who?")), ("id", .value (.int 2))]]

theorem insertsAll_iff_twoGuests :
    let d : Dialect := ⟨⟨true, ""⟩, .lenient⟩
    let q : Query := { Query.empty with source := some (.name "guest") }
    d.InsertsAll q twoGuests ∧
      d.insert q twoGuests = .ok ⟨"insert into \"guest\" (\"id\", \"name\") values (guest_seq.nextval, ?), (?, ?)",
        [.text "Ada", .int 2, .text "who?"]⟩ := by
  intro d q
  obtain ⟨hall, -⟩ := insertsAll_iff d q (.name "guest") rfl
    (.ofList [("id", .raw "guest_seq.nextval"), ("name", .value (.text "Ada"))])
    [.ofList [("name", .value (.text "who?")), ("id", .value (.int 2))]]
  exact ⟨hall.2 fun h => absurd h.1 (by decide), by decide +kernel⟩

/-- After a row without columns a row is lost: one with a column, which has no place beside the first, and one more
without columns. -/
theorem exists_row_lost :
    let d : Dialect := ⟨{}, .lenient⟩
    let q : Query := { Query.empty with source := some (.name "t") }
    let lost : List RowValues := [.empty, .ofList [("a", .value (.int 1))]]
    (d.insert q lost = .ok (.text "insert into T default values") ∧ ¬ SameColumns lost ∧ ¬ d.InsertsAll q lost) ∧
      (d.insert q [.empty, .empty] = .ok (.text "insert into T default values") ∧
        ¬ d.InsertsAll q [.empty, .empty]) := by
  intro d q lost
  have htarget : d.target q = .ok "T" := by decide +kernel
  have hdifferent : ¬ SameColumns lost := by
    intro h
    have hcolumn := (h .empty List.mem_cons_self _ (List.mem_cons_of_mem _ List.mem_cons_self) "a").2 (by decide)
    exact absurd hcolumn List.not_mem_nil
  refine ⟨⟨by decide +kernel, hdifferent, ?_⟩, by decide +kernel, ?_⟩
  · exact not_insertsAll_of_isEmpty htarget rfl (List.cons_ne_nil _ _)
  · exact not_insertsAll_of_isEmpty htarget rfl (List.cons_ne_nil _ _)

end Dialect

end WarehouseSql
