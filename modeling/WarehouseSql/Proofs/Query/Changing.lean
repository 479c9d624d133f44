import WarehouseSql.Proofs.Query.Selecting

/-!
Changes with all that is inside them.  **Inlining commutes with compiling** (`Request.interpolate_compile`): the
statement compiled for a request without raw SQL, with its bindings put in, is the statement compiled for the request
with its values written into it.
-/

namespace WarehouseSql

open Fragment
open Compiled (Lifts)

namespace Dialect

variable {d : Dialect}

lemma source_inlined (q : Query) : q.inlined.source = q.source := by
  rw [Query.inlined_eq]

variable (hadmits : d.policy.admits d.policy.tablePrefix = true)

include hadmits

lemma lifts_target {q : Query} (hq : q.RawFree d.policy.admits) :
    Lifts SameSpelled (d.target q) (d.target q.inlined) := by
  rw [target, target, source_inlined]
  cases hsource : q.source with
  | none => exact .error _ _
  | some source =>
    have hname : source.isName d.policy.admits = true := by simpa [hsource] using hq.source
    exact .ok ⟨rfl, Policy.spelled_table hadmits hname⟩

/-! ### inserting -/

omit hadmits in
lemma insertBody_cons (d : Dialect) (table : String) (first : RowValues) (rest : List RowValues) :
    d.insertBody table (first :: rest) =
      if first.isEmpty then .ok (text ("into " ++ table ++ " default values"))
      else if (first :: rest).any fun row => row.keys != first.keys then .error .unequalColumns
      else .ok (text ("into " ++ table ++ " (" ++ d.policy.columnNames first.keys ++ ") values ")
        ++ join ", " ((first :: rest).map fun row => text "(" ++ operands row.values ++ text ")")) := rfl

lemma lifts_insertBody {table : String} (htable : Spelled table) {rows : List RowValues}
    (hrows : rows.all (RowValues.isRawFree d.policy.admits) = true) :
    Lifts Inlines (d.insertBody table rows) (d.insertBody table (rows.map RowValues.inlined)) := by
  have hdefault : Spelled ("into " ++ table ++ " default values") :=
    (Spelled.calm_append (by decide) htable).append_calm (by decide)
  cases rows with
  | nil => exact .ok hdefault
  | cons first rest =>
    have hkeys : ∀ row : RowValues, row.inlined.keys = row.keys := fun row => row.keys_map _
    have hany : ((first :: rest).map RowValues.inlined).any (fun row => row.keys != first.keys) =
        (first :: rest).any fun row => row.keys != first.keys := by
      rw [List.any_map]
      exact congrArg (List.any _) (funext fun row => by simp [hkeys])
    have hempty : first.inlined.isEmpty = first.isEmpty := first.isEmpty_map _
    rw [List.map_cons, insertBody_cons, insertBody_cons, hempty, hkeys first, ← List.map_cons, hany]
    split_ifs
    · exact .ok hdefault
    · exact .error _ _
    · have hnames : first.keys.all d.policy.admits = true := by
        have hfirst := (List.all_eq_true.1 hrows) first List.mem_cons_self
        rw [RowValues.isRawFree, Bool.and_eq_true] at hfirst
        exact hfirst.1
      have hhead : Spelled ("into " ++ table ++ " (" ++ d.policy.columnNames first.keys ++ ") values ") :=
        (((Spelled.calm_append (by decide) htable).append_calm (by decide)).append
          (Policy.spelled_columnNames hadmits hnames)).append_calm (by decide)
      have hopen : Spelled "(" := spelled_of_isCalm (by decide)
      have hclose : Spelled ")" := spelled_of_isCalm (by decide)
      refine .ok (hhead.inlines.append (.join (spelled_of_isCalm (by decide)) (forall₂_inlines_map ?_)))
      intro row hrow
      have hfree := List.all_eq_true.1 hrows row hrow
      rw [RowValues.isRawFree, Bool.and_eq_true] at hfree
      have hvalues : row.inlined.values = row.values.map Operand.inlined := row.values_map _
      rw [hvalues]
      exact (hopen.inlines.append (inlines_operands hfree.2)).append hclose

lemma lifts_inserted {q : Query} (hq : q.RawFree d.policy.admits) {rows : List RowValues}
    (hrows : rows.all (RowValues.isRawFree d.policy.admits) = true) {keyword : String} (hkeyword : Spelled keyword) :
    Lifts Inlines (do let table ← d.target q; return text keyword ++ (← d.insertBody table rows))
      (do let table ← d.target q.inlined
          return text keyword ++ (← d.insertBody table (rows.map RowValues.inlined))) := by
  refine (lifts_target hadmits hq).bind ?_
  rintro table _ ⟨rfl, htable⟩
  exact (lifts_insertBody hadmits htable hrows).bind fun f g hfg => .ok (hkeyword.inlines.append hfg)

lemma lifts_insert {q : Query} (hq : q.RawFree d.policy.admits) {rows : List RowValues}
    (hrows : rows.all (RowValues.isRawFree d.policy.admits) = true) :
    Lifts Inlines (d.insert q rows) (d.insert q.inlined (rows.map RowValues.inlined)) :=
  lifts_inserted hadmits hq hrows (spelled_of_isCalm (by decide))

lemma lifts_insertOrIgnore {q : Query} (hq : q.RawFree d.policy.admits) {rows : List RowValues}
    (hrows : rows.all (RowValues.isRawFree d.policy.admits) = true) :
    Lifts Inlines (d.insertOrIgnore q rows) (d.insertOrIgnore q.inlined (rows.map RowValues.inlined)) :=
  lifts_inserted hadmits hq hrows (spelled_of_isCalm (by decide))

lemma inlines_upsertAssignment {a : UpsertAssignment} (h : a.isRawFree d.policy.admits = true) :
    Inlines (d.upsertAssignment a) (d.upsertAssignment a.inlined) := by
  cases a with
  | proposed column =>
    have hname := Policy.spelled_columnName hadmits h
    exact (hname.append_calm (by decide)).append hname
  | assign column operand =>
    simp only [UpsertAssignment.isRawFree, Bool.and_eq_true] at h
    have hleft : Spelled (d.policy.columnName column ++ " = ") :=
      (Policy.spelled_columnName hadmits h.1).append_calm (by decide)
    exact hleft.inlines.append (inlines_operand h.2)

lemma lifts_upsert {q : Query} (hq : q.RawFree d.policy.admits) {rows : List RowValues}
    (hrows : rows.all (RowValues.isRawFree d.policy.admits) = true) {uniqueBy : List String}
    (hunique : uniqueBy.all d.policy.admits = true) {assignments : List UpsertAssignment}
    (hassignments : assignments.all (·.isRawFree d.policy.admits) = true) :
    Lifts Inlines (d.upsert q rows uniqueBy assignments)
      (d.upsert q.inlined (rows.map RowValues.inlined) uniqueBy (assignments.map UpsertAssignment.inlined)) := by
  have hconflict : Spelled (" on conflict (" ++ d.policy.columnNames uniqueBy ++ ")") :=
    (Spelled.calm_append (by decide) (Policy.spelled_columnNames hadmits hunique)).append_calm (by decide)
  have hnothing : Spelled " do nothing" := spelled_of_isCalm (by decide)
  have hupdate : Spelled " do update set " := spelled_of_isCalm (by decide)
  unfold upsert
  rw [List.isEmpty_map]
  cases uniqueBy.isEmpty with
  | true => exact .error _ _
  | false =>
    cases assignments.isEmpty with
    | true => exact (lifts_insert hadmits hq hrows).bind fun f g hfg => .ok ((hfg.append hconflict).append hnothing)
    | false =>
      have hlist : Inlines (join ", " (assignments.map d.upsertAssignment))
          (join ", " ((assignments.map UpsertAssignment.inlined).map d.upsertAssignment)) := by
        refine .join (spelled_of_isCalm (by decide)) (forall₂_inlines_map fun a ha => ?_)
        exact inlines_upsertAssignment hadmits (List.all_eq_true.1 hassignments a ha)
      exact (lifts_insert hadmits hq hrows).bind fun f g hfg =>
        .ok (((hfg.append hconflict).append hupdate).append hlist)

/-! ### updating and deleting -/

omit hadmits in
/-- Without JSON paths, each value of an update is one assignment. -/
lemma sortAssignments_eq (d : Dialect) {entries : List (String × Operand)}
    (h : ∀ entry ∈ entries, (Text.cutAtArrow entry.1.toList).isNone = true) (groups : JsonGroups) :
    d.sortAssignments entries groups = .ok
      (entries.map fun entry =>
        text (d.policy.identifier (lastSegment entry.1) ++ " = ") ++ operand entry.2, groups) := by
  induction entries with
  | nil => rfl
  | cons entry entries ih =>
    obtain ⟨hentry, hentries⟩ := List.forall_mem_cons.1 h
    obtain ⟨key, operand⟩ := entry
    have hnone : Text.cutAtArrow key.toList = none := Option.isNone_iff_eq_none.1 hentry
    simp only [sortAssignments, hnone, ih hentries]
    rfl

omit hadmits in
lemma admits_lastSegment {name : String} (h : d.policy.admits name = true) :
    d.policy.admits (lastSegment name) = true :=
  Policy.admits_getLastD (Policy.admits_dotted h) h

omit hadmits in
lemma lifts_assignments {values : RowValues} (hvalues : RowValues.isRawFree d.policy.admits values = true)
    (hpaths : (values.keys.all fun key => (Text.cutAtArrow key.toList).isNone) = true) :
    Lifts Inlines (d.assignments values) (d.assignments values.inlined) := by
  rw [RowValues.isRawFree, Bool.and_eq_true] at hvalues
  have hentries : values.inlined.entries = values.entries.map fun entry => (entry.1, entry.2.inlined) := rfl
  have hnone : ∀ entry ∈ values.entries, (Text.cutAtArrow entry.1.toList).isNone = true := fun entry hentry =>
    List.all_eq_true.1 hpaths entry.1 (List.mem_map_of_mem hentry)
  have hnone' : ∀ entry ∈ values.inlined.entries, (Text.cutAtArrow entry.1.toList).isNone = true := by
    rw [hentries]
    intro entry hentry
    obtain ⟨entry, hmem, rfl⟩ := List.mem_map.1 hentry
    exact hnone entry hmem
  have hplain : List.Forall₂ Inlines
      (values.entries.map fun entry => text (d.policy.identifier (lastSegment entry.1) ++ " = ") ++ operand entry.2)
      (values.inlined.entries.map fun entry =>
        text (d.policy.identifier (lastSegment entry.1) ++ " = ") ++ operand entry.2) := by
    rw [hentries]
    refine forall₂_inlines_map fun entry hentry => ?_
    have hname : d.policy.admits entry.1 = true := List.all_eq_true.1 hvalues.1 _ (List.mem_map_of_mem hentry)
    have hvalue : entry.2.isValue = true := List.all_eq_true.1 hvalues.2 _ (List.mem_map_of_mem hentry)
    have hleft : Spelled (d.policy.identifier (lastSegment entry.1) ++ " = ") :=
      (Policy.spelled_identifier (admits_lastSegment hname)).append_calm (by decide)
    exact hleft.inlines.append (inlines_operand hvalue)
  unfold assignments
  rw [sortAssignments_eq d hnone, sortAssignments_eq d hnone']
  simp only [Bind.bind, Except.bind, List.map_nil, List.append_nil, isEmpty_eq hplain]
  split_ifs
  · exact .error _ _
  · exact .ok (.join (spelled_of_isCalm (by decide)) hplain)

omit hadmits in
lemma admits_rowAlias {source label : String} (h : d.policy.admits source = true)
    (hlabel : rowAlias? source = some label) : d.policy.admits label = true := by
  simp only [rowAlias?] at hlabel
  split_ifs at hlabel
  obtain rfl := Option.some.inj hlabel
  have htrim : ∀ {name : String}, d.policy.admits name = true → d.policy.admits (Text.trim name) = true := by
    intro name hname
    exact Policy.admits_of_mem hname fun _ => mem_of_mem_trim
  split
  · next halias => exact htrim (Policy.admits_of_mem h (mem_of_splitAlias? halias).2)
  · exact htrim (admits_lastSegment h)

omit hadmits in
/-- The rows of a query are identified alike with placeholders and with literals. -/
lemma rowIdQuery?_inlined (q : Query) : rowIdQuery? q.inlined = (rowIdQuery? q).map Query.inlined := by
  obtain ⟨source, columns, distinct, aggregate, joins, clauses, groups, havings, orders, limit, offset, lock,
    branches, unionOrders, unionLimit, unionOffset⟩ := q
  rcases source with - | (sql | name)
  · rfl
  · rfl
  · rw [rowIdQuery?, rowIdQuery?, Option.map_map]
    rfl

omit hadmits in
lemma isRawFree_rowIdQuery? {q rows : Query} (hq : q.RawFree d.policy.admits) (h : rowIdQuery? q = some rows) :
    rows.isRawFree d.policy.admits = true := by
  unfold rowIdQuery? at h
  split at h
  · next source hsource =>
    obtain ⟨label, hlabel, rfl⟩ := Option.map_eq_some_iff.1 h
    have hname : d.policy.admits source = true := by simpa [hsource, Reference.isName] using hq.source
    have hcolumn : d.policy.admits (label ++ "." ++ rowId) = true :=
      Policy.admits_append
        (Policy.admits_append (admits_rowAlias hname hlabel) (Policy.admits_of_all_isNameChar (by decide)))
        (Policy.admits_of_all_isNameChar (by decide))
    exact Query.isRawFree_iff.2 { hq with
      columns := by simp [Reference.isName, hcolumn]
      distinct := rfl
      aggregate := rfl }
  · simp at h

omit hadmits in
lemma isEmpty_joins_inlined (q : Query) : q.inlined.joins.isEmpty = q.joins.isEmpty := by
  rw [Query.inlined_eq]
  cases q.joins with
  | nil => rfl
  | cons join joins => cases join; rfl

/-- **A change keeps to its rows**, be they found by their identifiers or by conditions. -/
lemma lifts_restricted {q : Query} (hq : q.RawFree d.policy.admits) {change change' : Fragment}
    (hchange : Inlines change change') : Lifts Inlines (d.restricted q change) (d.restricted q.inlined change') := by
  have hlimit : q.inlined.limit = q.limit := by rw [Query.inlined_eq]
  have hclauses : q.inlined.clauses = clausesInlined q.clauses := by rw [Query.inlined_eq]
  rw [restricted, restricted, isEmpty_joins_inlined, hlimit, rowIdQuery?_inlined, hclauses]
  split_ifs
  · cases hrows : rowIdQuery? q with
    | none => exact .error _ _
    | some rows =>
      have hrowId : Spelled (d.policy.identifier rowId) :=
        Policy.spelled_identifier (Policy.admits_of_all_isNameChar (by decide))
      have hin : Spelled (" where " ++ d.policy.identifier rowId ++ " in (") :=
        (Spelled.calm_append (by decide) hrowId).append_calm (by decide)
      have hclose : Spelled ")" := spelled_of_isCalm (by decide)
      exact (lifts_select hadmits rows (isRawFree_rowIdQuery? hq hrows)).bind fun f g hfg =>
        .ok (((hchange.append hin).append hfg).append hclose)
  · exact (lifts_clauseFragments hadmits q.clauses hq.clauses).bind fun cs cs' hcs =>
      .ok (.sentence (.cons hchange (.cons (inlines_where hcs) .nil)))

lemma lifts_update {q : Query} (hq : q.RawFree d.policy.admits) {values : RowValues}
    (hvalues : RowValues.isRawFree d.policy.admits values = true)
    (hpaths : (values.keys.all fun key => (Text.cutAtArrow key.toList).isNone) = true) :
    Lifts Inlines (d.update q values) (d.update q.inlined values.inlined) := by
  refine (lifts_target hadmits hq).bind ?_
  rintro table _ ⟨rfl, htable⟩
  have hset : Spelled ("update " ++ table ++ " set ") :=
    (Spelled.calm_append (by decide) htable).append_calm (by decide)
  exact (lifts_assignments hvalues hpaths).bind fun f g hfg => lifts_restricted hadmits hq (hset.inlines.append hfg)

lemma lifts_delete {q : Query} (hq : q.RawFree d.policy.admits) :
    Lifts Inlines (d.delete q) (d.delete q.inlined) := by
  refine (lifts_target hadmits hq).bind ?_
  rintro table _ ⟨rfl, htable⟩
  exact lifts_restricted hadmits hq (Spelled.calm_append (by decide) htable)

lemma lifts_truncate {q : Query} (hq : q.RawFree d.policy.admits) :
    Lifts Inlines (d.truncate q) (d.truncate q.inlined) := by
  refine (lifts_target hadmits hq).bind ?_
  rintro table _ ⟨rfl, htable⟩
  exact .ok (Spelled.calm_append (by decide) htable)

end Dialect

namespace Request

/-- The first of several statements inlines, and the others are the same. -/
def FirstInlines (fs gs : List Fragment) : Prop := ∃ f g others, fs = f :: others ∧ gs = g :: others ∧ Inlines f g

lemma lifts_single {x y : Compiled Fragment} (h : Lifts Inlines x y) :
    Lifts FirstInlines (do return [← x]) (do return [← y]) :=
  h.bind fun f g hfg => .ok ⟨f, g, [], rfl, rfl, hfg⟩

/-- Every statement that a request compiles to inlines. -/
lemma lifts_compile {c : ConnectionConfig} (hadmits : c.policy.admits c.policy.tablePrefix = true)
    {request : Request} (h : request.isRawFree c.policy.admits = true) :
    Lifts FirstInlines (request.compile c) (request.inlined.compile c) := by
  cases request with
  | select query => exact lifts_single (Dialect.lifts_select hadmits query h)
  | insert query rows =>
    simp only [isRawFree, Bool.and_eq_true] at h
    exact lifts_single (Dialect.lifts_insert hadmits (Query.isRawFree_iff.1 h.1) h.2)
  | insertOrIgnore query rows =>
    simp only [isRawFree, Bool.and_eq_true] at h
    exact lifts_single (Dialect.lifts_insertOrIgnore hadmits (Query.isRawFree_iff.1 h.1) h.2)
  | insertGetId query values sequence =>
    simp only [isRawFree, Bool.and_eq_true] at h
    have hq := Query.isRawFree_iff.1 h.1
    have hrows : [values].all (RowValues.isRawFree c.policy.admits) = true := by simpa using h.2
    -- the query for the identifier has no bindings and stays the same
    refine (Dialect.lifts_insert hadmits hq hrows).bind fun f g hfg => (Dialect.lifts_target hadmits hq).bind ?_
    rintro table _ ⟨rfl, -⟩
    exact .ok ⟨f, g, _, rfl, rfl, hfg⟩
  | upsert query rows uniqueBy assignments =>
    simp only [isRawFree, Bool.and_eq_true] at h
    obtain ⟨⟨⟨hquery, hrows⟩, hunique⟩, hassignments⟩ := h
    exact lifts_single
      (Dialect.lifts_upsert hadmits (Query.isRawFree_iff.1 hquery) hrows hunique hassignments)
  | update query values =>
    simp only [isRawFree, Bool.and_eq_true] at h
    exact lifts_single (Dialect.lifts_update hadmits (Query.isRawFree_iff.1 h.1.1) h.1.2 h.2)
  | delete query => exact lifts_single (Dialect.lifts_delete hadmits (Query.isRawFree_iff.1 h))
  | truncate query => exact lifts_single (Dialect.lifts_truncate hadmits (Query.isRawFree_iff.1 h))

/-- **Inlining commutes with compiling.**  The statement of a request without raw SQL has as many placeholders as
bindings, and with the bindings put in it is the statement of the request that has its values written into it. -/
theorem interpolate_compile {c : ConnectionConfig} (hadmits : c.policy.admits c.policy.tablePrefix = true)
    {request : Request} (h : request.isRawFree c.policy.admits = true) {fragments : List Fragment}
    (hcompile : request.compile c = .ok fragments) :
    ∃ f others sql, fragments = f :: others ∧ interpolate f.sql f.bindings = .ok sql ∧
      request.inlined.compile c = .ok (⟨sql, []⟩ :: others) ∧ (Template.parse f.sql).names = [] ∧
      (Template.parse f.sql).positionalCount = f.bindings.length := by
  obtain ⟨_, hinlined, f, g, others, rfl, rfl, hfg⟩ := lifts_compile hadmits h fragments hcompile
  refine ⟨f, others, g.sql, rfl, hfg.interpolate_eq, ?_, hfg.names_eq_nil, hfg.positionalCount_eq⟩
  rw [hinlined, ← hfg.bindings_eq_nil]

/-- A configuration that leaves names without quotes and puts a prefix before tables. -/
def prefixedConfig : ConnectionConfig := { tablePrefix := "t_" }

def openLoans : Query :=
  { Query.empty with
    source := some (.name "loan")
    columns := [.name "who"]
    clauses := [⟨.and, .compare (.name "back") "=" (.value .null)⟩,
      ⟨.or, .compare (.name "state") "=" (.value (.text "it's ?"))⟩] }

def fineOne : Request :=
  .update
    { Query.empty with
      source := some (.name "user")
      clauses := [⟨.and, .group [⟨.and, .amongRows (.name "id") openLoans false⟩]⟩]
      limit := some 1 }
    (.ofList [("fine", .value (.int (-3)))])

def fineStatement : Fragment where
  sql := "update T_USER set FINE = ? where ROWID in (select T_USER.ROWID from T_USER where (ID in "
    ++ "(select WHO from T_LOAN where BACK is null or STATE = ?)) limit 1)"
  bindings := [.int (-3), .text "it's ?"]

theorem interpolate_compile_fineOne :
    fineOne.compile prefixedConfig = .ok [fineStatement] ∧
      ∃ sql, interpolate fineStatement.sql fineStatement.bindings = .ok sql ∧
        fineOne.inlined.compile prefixedConfig = .ok [⟨sql, []⟩] := by
  have hcompile : fineOne.compile prefixedConfig = .ok [fineStatement] := by decide +kernel
  obtain ⟨f, others, sql, heq, hsql, hinlined, -⟩ :=
    interpolate_compile (c := prefixedConfig) (by decide +kernel) (by decide +kernel) hcompile
  obtain ⟨rfl, rfl⟩ := List.cons.inj heq
  exact ⟨hcompile, sql, hsql, hinlined⟩

end Request

end WarehouseSql
