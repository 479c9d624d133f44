import WarehouseSql.Proofs.Name.Qualified
import WarehouseSql.Query.Build

/-!
Changes of joined or limited queries.  The warehouse cannot delete or update through a join or a limit, so such a change
goes through the identifiers of the rows that the query selects.  **The rows are selected by the query itself with one
column, which stands under the identifier that the changed table introduces** (`Dialect.restricted_by_row_ids`), and the
bindings of the change stand before those of the selection.
-/

namespace WarehouseSql

/-- The query with one column in place of all that it selects. -/
def Query.onlyColumn (q : Query) (column : String) : Query :=
  { q with columns := [.name column], aggregate := none, distinct := .off }

namespace Dialect

variable {d : Dialect} {q : Query} {source : String}

/-- Rows are meant by the plain name that their table was given last. -/
lemma rowAlias?_of_plain (hplain : IsPlainName (Name.lastGiven source)) :
    rowAlias? source = some (Name.lastGiven source) := by
  have hlabel : rowAlias? source =
      if Text.trim (Name.lastGiven source) = "" then none else some (Text.trim (Name.lastGiven source)) := rfl
  rw [hlabel, Text.trim_of_not_blank hplain.not_blank, if_neg hplain.ne_empty]

lemma isPlainName_rowId : IsPlainName rowId := by decide

lemma column_rowId (policy : Policy) : policy.column (.name rowId) = policy.identifier rowId :=
  policy.columnName_of_plain isPlainName_rowId

/-- A change of a joined or limited query goes through the query of its row identifiers. -/
lemma restricted_eq_ok (hsource : q.source = some (.name source)) (hrows : q.joins ≠ [] ∨ q.limit.isSome = true)
    (hplain : IsPlainName (Name.lastGiven source)) {change result : Fragment} :
    d.restricted q change = .ok result ↔
      ∃ rows, d.select (q.onlyColumn (Name.lastGiven source ++ "." ++ rowId)) = .ok rows ∧
        result = ⟨change.sql ++ " where " ++ d.policy.column (.name rowId) ++ " in (" ++ rows.sql ++ ")",
          change.bindings ++ rows.bindings⟩ := by
  have hrestricts : (!q.joins.isEmpty || q.limit.isSome) = true := by
    rw [Bool.or_eq_true, Bool.not_eq_true', List.isEmpty_eq_false_iff]
    exact hrows
  have hquery : rowIdQuery? q = some (q.onlyColumn (Name.lastGiven source ++ "." ++ rowId)) := by
    simp only [rowIdQuery?, hsource, rowAlias?_of_plain hplain, Option.map_some, Query.onlyColumn]
  rw [restricted, if_pos hrestricts, hquery, column_rowId]
  refine Compiled.bind_eq_ok.trans (exists_congr fun rows => and_congr_right fun _ => ?_)
  have hwritten : change ++ Fragment.text (" where " ++ d.policy.identifier rowId ++ " in (") ++ rows ++ ")" =
      ⟨change.sql ++ " where " ++ d.policy.identifier rowId ++ " in (" ++ rows.sql ++ ")",
        change.bindings ++ rows.bindings⟩ :=
    (Fragment.mk.injEq ..).mpr ⟨by simp [String.append_assoc], by simp⟩
  rw [← hwritten]
  exact ⟨fun h => (Except.ok.inj h).symm, fun h => congrArg _ h.symm⟩

/-- **Deleting and updating through row identifiers.**  The rows are those of the same query with one column in place of
all that it selects; this column is written after the identifier that the changed table introduces. -/
theorem restricted_by_row_ids (d : Dialect) (q : Query) (source : String) (hsource : q.source = some (.name source))
    (hrows : q.joins ≠ [] ∨ q.limit.isSome = true) (hplain : IsPlainName (Name.lastGiven source))
    (hfolds : d.policy.FoldsOnce source) :
    let table := d.policy.table (.name source)
    let row := d.policy.column (.name rowId)
    let named := d.policy.tableText d.policy.tablePrefix source
    let column := Name.lastGiven source ++ "." ++ rowId
    table = named.sql ∧
    d.policy.column (.name column) = named.introduced ++ "." ++ row ∧
    d.columnList (q.onlyColumn column) = "select " ++ (named.introduced ++ "." ++ row) ∧
    (∀ deleted, d.delete q = .ok deleted ↔
      ∃ rows, d.select (q.onlyColumn column) = .ok rows ∧
        deleted = ⟨"delete from " ++ table ++ " where " ++ row ++ " in (" ++ rows.sql ++ ")", rows.bindings⟩) ∧
    ∀ values updated, d.update q values = .ok updated ↔
      ∃ assigned rows, d.assignments values = .ok assigned ∧ d.select (q.onlyColumn column) = .ok rows ∧
        updated =
          ⟨"update " ++ table ++ " set " ++ assigned.sql ++ " where " ++ row ++ " in (" ++ rows.sql ++ ")",
            assigned.bindings ++ rows.bindings⟩ := by
  intro table row named column
  have htarget : d.target q = .ok table := by rw [target, hsource]
  have hcolumn : d.policy.column (.name column) = named.introduced ++ "." ++ row := by
    rw [show row = d.policy.identifier rowId from column_rowId d.policy]
    exact d.policy.columnName_qualified hplain isPlainName_rowId hfolds
  refine ⟨(d.policy.sql_tableText d.policy.tablePrefix source).symm, hcolumn, ?_, fun deleted => ?_,
    fun values updated => ?_⟩
  · rw [← hcolumn]
    simp [columnList, Query.onlyColumn, Distinct.isSet, Policy.columns, Text.commaList]
  · have hdelete : d.delete q = d.restricted q (.text ("delete from " ++ table)) := by
      rw [delete, htarget]
      rfl
    rw [hdelete, restricted_eq_ok hsource hrows hplain]
    rfl
  · have hupdate : d.update q values = d.assignments values >>= fun assigned =>
        d.restricted q (Fragment.text ("update " ++ table ++ " set ") ++ assigned) := by
      rw [update, htarget]
      rfl
    rw [hupdate, Compiled.bind_eq_ok]
    refine exists_congr fun assigned => ?_
    rw [restricted_eq_ok hsource hrows hplain, exists_and_left]
    rfl

/-- Five guests of a stay, which go by a short name. -/
def fiveGuests : Query := { Query.empty with source := some (.name "stay.guest as g"), limit := some 5 }

theorem restricted_by_row_ids_fiveGuests :
    Dialect.delete ⟨⟨false, "h_"⟩, .lenient⟩ fiveGuests =
      .ok ⟨"delete from STAY.H_GUEST as H_G where ROWID in (select H_G.ROWID from STAY.H_GUEST as H_G limit 5)", []⟩ := by
  have hplain : IsPlainName (Name.lastGiven "stay.guest as g") := by decide
  have hascii : Text.IsAscii "stay.guest as g" := by decide
  have htable : Policy.table ⟨false, "h_"⟩ (.name "stay.guest as g") = "STAY.H_GUEST as H_G" := by decide +kernel
  have hrow : Policy.column ⟨false, "h_"⟩ (.name rowId) = "ROWID" := by decide +kernel
  have hselect : select ⟨⟨false, "h_"⟩, .lenient⟩ (fiveGuests.onlyColumn "g.rowid") =
      .ok ⟨"select H_G.ROWID from STAY.H_GUEST as H_G limit 5", []⟩ := by decide +kernel
  obtain ⟨-, -, -, hdelete, -⟩ := restricted_by_row_ids ⟨⟨false, "h_"⟩, .lenient⟩ fiveGuests "stay.guest as g" rfl
    (.inr rfl) hplain (.inr hascii)
  refine (hdelete _).2 ⟨_, hselect, ?_⟩
  rw [htable, hrow]
  rfl

end Dialect

end WarehouseSql
