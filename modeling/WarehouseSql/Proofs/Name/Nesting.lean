import WarehouseSql.Proofs.Fragment.Nesting
import WarehouseSql.Proofs.Name.Spelling

/-!
Names and the parentheses around them, under a case-sensitive policy.  **Columns and tables show no connective outside
of quotes and parentheses** (`Policy.frames_column`, `Policy.frames_table`), and no white space stands at their ends
(`Policy.edged_column`), whatever the names hold.
-/

namespace WarehouseSql

open Template

namespace Policy

variable {policy : Policy} (hcase : policy.caseSensitive = true)

include hcase

lemma frames_identifier (name : String) : Frames 0 0 (policy.identifier name) := by
  rw [identifier]
  split_ifs with hstar
  · rw [hstar]
    exact .word (by decide) (by decide)
  · exact .quoteIdentifier name 0

lemma spells_frames : policy.Spells (Frames 0 0) where
  append := .append
  word := by
    have hwords : ∀ text ∈ nameWords, IsStep 0 0 text ∧ Quiet (outerChars 0 text.toList) := by decide
    exact fun text htext => .word (hwords text htext).1 (hwords text htext).2
  selector {column} keys hcolumn := by
    have hopen : Frames 0 1 "get_path(" := .word (by decide) (by decide)
    have hcomma : Frames 1 1 ", " := .word (by decide) (by decide)
    have hclose : Frames 1 0 ")" := .word (by decide) (by decide)
    exact (((hopen.append hcolumn.nests.inside).append hcomma).append (.quoteLiteral keys 1)).append hclose
  identifier _ := frames_identifier hcase _

lemma frames_column {column : Reference} (h : column.isName policy.admits = true) :
    Frames 0 0 (policy.column column) :=
  (spells_frames hcase).column (admits_of_caseSensitive hcase _) h

lemma frames_table {table : Reference} (h : table.isName policy.admits = true) : Frames 0 0 (policy.table table) :=
  (spells_frames hcase).table (admits_of_caseSensitive hcase _) h

lemma edged_identifier (name : String) : Edged (policy.identifier name) := by
  rw [identifier]
  split_ifs with hstar
  · rw [hstar]
    exact ⟨by decide, by decide⟩
  · rw [← Edged.isTrimmed_iff, Token.toList_quoteIdentifier]
    exact Token.isTrimmed_enclosed (by decide) _

lemma edged_tableWithPrefix (tablePrefix name : String) : Edged (policy.tableWithPrefix tablePrefix name) := by
  fun_induction policy.tableWithPrefix tablePrefix name with
  | case1 name table label halias ih =>
    exact ⟨(ih.begins.append _).append _, .append _ (edged_identifier hcase _).ends⟩
  | case2 name halias =>
    refine .intercalate (by simp) fun piece hpiece => ?_
    rcases List.mem_append.1 hpiece with hpiece | hpiece
    · obtain ⟨segment, -, rfl⟩ := List.mem_map.1 hpiece
      exact edged_identifier hcase segment
    · rw [List.mem_singleton.1 hpiece]
      exact edged_identifier hcase _

lemma edged_path {segments : List String} (hne : segments ≠ []) : Edged (policy.path segments) := by
  have hnames : ∀ names : List String, ∀ piece ∈ names.map policy.identifier, Edged piece := by
    intro names piece hpiece
    obtain ⟨name, -, rfl⟩ := List.mem_map.1 hpiece
    exact edged_identifier hcase name
  unfold Policy.path
  split
  · exact .intercalate (List.cons_ne_nil _ _)
      (List.forall_mem_cons.2 ⟨edged_tableWithPrefix hcase _ _, hnames _⟩)
  · exact .intercalate (mt List.map_eq_nil_iff.1 hne) (hnames _)

lemma edged_columnName (name : String) : Edged (policy.columnName name) := by
  fun_induction policy.columnName name with
  | case1 name column label halias ih =>
    exact ⟨(ih.begins.append _).append _, .append _ (edged_identifier hcase _).ends⟩
  | case2 name halias =>
    unfold Policy.jsonSelector
    split
    · exact edged_path hcase (Text.dotted_ne_nil _)
    · have hlookup : Begins "get_path(" := by decide
      exact ⟨(((hlookup.append _).append _).append _).append _, .append _ (by decide)⟩

lemma edged_column {column : Reference} (h : column.isName policy.admits = true) : Edged (policy.column column) := by
  cases column with
  | raw sql => cases h
  | name name => exact edged_columnName hcase name

end Policy

end WarehouseSql
