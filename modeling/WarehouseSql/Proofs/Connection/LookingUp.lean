import WarehouseSql.Proofs.Connection.Accounting
import WarehouseSql.Proofs.Connection.Agreement
import WarehouseSql.Proofs.Connection.Skipping
import WarehouseSql.Proofs.Name.Stored
import WarehouseSql.Proofs.Template.Splicing

/-!
Looking tables up.  A lookup seeks a stored name if the text that it hands over compares the name of the table with that
name as a string literal, in its code (`TableLookup.Seeks`).  The name is put into the text as a value by all lookups but
the one for details, and two of them write the name of the database as it is.  **A lookup seeks the table that is
addressed in SQL exactly if the table has no dot, its prefix is harmless, its name does not look like a number, and the
name of the database leaves the text in code** (`TableLookup.seeks_addressed_iff`).
-/

namespace WarehouseSql

open WarehouseSql.Action (on snd_on_bind_pure)

/-! ### statements with values -/

namespace Connection

variable {c : Connection} {s : Session} {sql : String} {values : List Value}

/-- **With values, a statement hands over what inlining gives**, and nothing if they cannot be inlined. -/
theorem sent_ofValues_iff (hvalues : values ≠ []) {handed : Sent} :
    (∃ resolution, c.resolution sql (.ofValues values) = .ok resolution ∧ resolution.sent? = some handed) ↔
      handed.mode = .prepared ∧ interpolate sql values = .ok handed.sql := by
  have hresolution : c.resolution sql (.ofValues values) = DeferredStatement.resolve { c.prepare sql with
      positional := declaredFrom 1 values
      state := (c.prepare sql).stateAfter values } := by
    rw [resolution, bound_ofValues]
    rfl
  rw [hresolution]
  constructor
  · rintro ⟨resolution, hresolve, hsent⟩
    have hdeclared : declaredFrom 1 values ≠ [] := by
      obtain ⟨first, rest, rfl⟩ := List.exists_cons_of_ne_nil hvalues
      exact List.cons_ne_nil _ _
    cases resolution with
    | skip text => cases hsent
    | direct text => exact absurd (DeferredStatement.resolve_eq_ok_direct_iff.1 hresolve).2.2.1.1 hdeclared
    | literal text =>
      cases hsent
      obtain ⟨-, -, texts, named, hpositional, hnamed, rfl⟩ := DeferredStatement.resolve_eq_ok_literal_iff.1 hresolve
      obtain ⟨rfl, hcount⟩ := DeferredStatement.positionalLiterals_eq_ok_iff.1 hpositional
      obtain ⟨rfl, hnames⟩ := DeferredStatement.namedLiterals_eq_ok_iff.1 hnamed
      have hrange := (hcount.resolve_left fun h => hdeclared h.2).2.2
      rw [map_fst_declaredFrom] at hrange
      refine ⟨rfl, interpolate_eq_ok_iff.2 ⟨?_, ?_, ?_⟩⟩
      · -- a name would have to be given a value, and no value is given by name
        refine List.eq_nil_iff_forall_not_mem.2 fun name hname => ?_
        have hsome := (hnames name).2 hname
        cases hsome
      · have hlength := congrArg List.length hrange
        rw [List.length_range', List.length_range'] at hlength
        exact hlength.symm
      · rw [map_literal_declaredFrom]
        rfl
  · rintro ⟨hmode, h⟩
    refine ⟨_, resolve_of_interpolate hvalues h, ?_⟩
    obtain ⟨mode, text⟩ := handed
    cases hmode
    rfl

end Connection

/-! ### lookups -/

inductive TableLookup where
  | existence
  | columns
  | columnType (column : String)
  | details

namespace TableLookup

def step (table : String) : TableLookup → Step
  | .existence => .hasTable table
  | .columns => .columnListing table
  | .columnType column => .columnType table column
  | .details => .tableDetails table

/-- Whether a lookup writes the name of the database as it is. -/
def writesDatabase : TableLookup → Bool
  | .existence => false
  | .columns => true
  | .columnType _ => true
  | .details => false

def selectColumns : String :=
  "select column_name as \"column_name\", data_type as \"column_type\", lower(is_nullable) as \"is_nullable\" from "

def selectType : String :=
  "select column_name as \"column_name\", data_type as \"column_type\", numeric_precision as \"numeric_precision\", numeric_scale as \"numeric_scale\" from "

/-- What stands in front of the name of the table, which it is compared with. -/
def opening (c : Connection) : TableLookup → String
  | .existence =>
    "select * from information_schema.tables where table_catalog" ++ " = " ++ c.databaseValue.literal none
      ++ " and table_name = "
  | .columns =>
    selectColumns ++ c.config.database ++ ".information_schema.columns where table_catalog = "
      ++ c.databaseValue.literal none ++ " and table_name = "
  | .columnType _ => selectType ++ c.config.database ++ ".information_schema.columns where table_name = "
  | .details => "select * from information_schema.tables where table_name = "

/-- What stands behind the name of the table. -/
def closing (c : Connection) : TableLookup → String
  | .existence => " and table_type = 'BASE TABLE'"
  | .columns => ""
  | .columnType column => " and column_name = " ++ (c.storedColumn column).literal none
  | .details => " order by ordinal_position"

/-- A text looks for a stored name: in its code it compares the name of the table with that name as a string literal. -/
def Seeks (lookup : TableLookup) (c : Connection) (stored text : String) : Prop :=
  text = lookup.opening c ++ Text.quoteLiteral stored ++ lookup.closing c ∧
    (LexState.run .code (lookup.opening c).toList).isCode = true

def sql (c : Connection) (table : String) : TableLookup → String
  | .existence => SchemaDialect.tableExists
  | .columns => SchemaDialect.columnListing c.config.database
  | .columnType _ => SchemaDialect.columnType c.config.database
  | .details => SchemaDialect.tableDetails (c.config.policy.storedTable table)

def values (c : Connection) (table : String) : TableLookup → List Value
  | .existence => [c.databaseValue, c.storedTable table]
  | .columns => [c.databaseValue, c.storedTable table]
  | .columnType column => [c.storedTable table, c.storedColumn column]
  | .details => []

/-- The name of the table in the text of a lookup. -/
def written (c : Connection) (table : String) : TableLookup → String
  | .details => Text.quoteLiteral (c.config.policy.storedTable table)
  | _ => numeralOrQuoted (c.config.policy.storedTable table)

variable {c : Connection} {s : Session} {lookup : TableLookup} {table : String}

/-- A lookup runs its statement, and what it makes of the rows does not touch the session. -/
lemma snd_on_perform (lookup : TableLookup) (c : Connection) (table : String) (s : Session) :
    (on (c.perform (lookup.step table)) s).2 = (on (c.run (lookup.sql c table) (.ofValues (lookup.values c table))) s).2 := by
  cases lookup with
  | existence =>
    rw [step, Connection.perform, snd_on_bind_pure, Connection.hasTable, snd_on_bind_pure, Connection.snd_on_select]
    rfl
  | columns =>
    rw [step, Connection.perform, snd_on_bind_pure, Connection.columnListing, snd_on_bind_pure, Connection.snd_on_select]
    rfl
  | columnType column =>
    rw [step, Connection.perform, snd_on_bind_pure, Connection.columnType, snd_on_bind_pure, Connection.snd_on_select]
    rfl
  | details =>
    rw [step, Connection.perform, snd_on_bind_pure, Connection.tableDetails, Connection.snd_on_select]
    rfl

/-! ### what is handed over -/

/-- The name of a database leaves a text in code. -/
def LeavesCode (c : Connection) : Prop := (LexState.run .code c.config.database.toList).isCode = true

lemma surrounds_columns : Template.Surrounds selectColumns ".information_schema.columns where table_catalog = "
    " and table_name = " :=
  ⟨by decide +kernel, by decide +kernel, by decide +kernel, by decide, by decide, by decide, by decide⟩

lemma surrounds_columnType : Template.Surrounds selectType ".information_schema.columns where table_name = "
    " and column_name = " :=
  ⟨by decide +kernel, by decide +kernel, by decide +kernel, by decide, by decide, by decide, by decide⟩

/-- What a lookup hands over. -/
def Sends (lookup : TableLookup) (c : Connection) (table : String) (text : Sent) : Prop :=
  ∃ resolution, c.resolution (lookup.sql c table) (.ofValues (lookup.values c table)) = .ok resolution ∧
    resolution.sent? = some text

/-- All lookups but the one for details bind values. -/
lemma sends_iff_of_ne (h : lookup ≠ .details) {text : Sent} :
    lookup.Sends c table text ↔
      text.mode = .prepared ∧ interpolate (lookup.sql c table) (lookup.values c table) = .ok text.sql := by
  refine Connection.sent_ofValues_iff ?_
  cases lookup with
  | existence => exact List.cons_ne_nil _ _
  | columns => exact List.cons_ne_nil _ _
  | columnType column => exact List.cons_ne_nil _ _
  | details => exact absurd rfl h

lemma leads_tables :
    LexState.Leads .code "select * from information_schema.tables where table_catalog".toList .code :=
  LexState.leads_of_isCalm (by decide)

lemma leads_equals : LexState.Leads
    (LexState.run .code "select * from information_schema.tables where table_catalog".toList) " = ".toList .code := by
  rw [leads_tables.run]
  exact LexState.leads_of_isCalm (by decide)

lemma sends_existence_iff {text : Sent} :
    existence.Sends c table text ↔ text.mode = .prepared ∧
      text.sql = existence.opening c ++ existence.written c table ++ existence.closing c := by
  have hlast : LexState.Leads .code " and table_type = 'BASE TABLE'".toList .singleEnd :=
    (LexState.leads_of_isCalm (show " and table_type = ".toList.all LexState.isCalm = true by decide)).append
      (leads_quoteLiteral "BASE TABLE")
  have hsql : existence.sql c table = "select * from information_schema.tables where table_catalog" ++
      (" = " ++ "?" ++ " and table_name = " ++ "?" ++ " and table_type = 'BASE TABLE'") := rfl
  have hopening : existence.opening c = "select * from information_schema.tables where table_catalog" ++ " = " ++
      c.databaseValue.literal none ++ " and table_name = " := rfl
  have hwritten : existence.written c table = (c.storedTable table).literal none := rfl
  have hclosing : existence.closing c = " and table_type = 'BASE TABLE'" := rfl
  rw [sends_iff_of_ne (by simp), hsql, hopening, hwritten,
    hclosing, values, Template.interpolate_two_iff leads_equals (LexState.leads_of_isCalm (by decide)) hlast (by decide),
    and_iff_right (Template.hasMarkers_of_leads leads_tables)]

lemma sends_columns_iff (h : LeavesCode c) {text : Sent} :
    columns.Sends c table text ↔ text.mode = .prepared ∧ (Template.parse c.config.database).hasMarkers = false ∧
      text.sql = columns.opening c ++ columns.written c table ++ columns.closing c := by
  have hsql : columns.sql c table = selectColumns ++ c.config.database ++
      (".information_schema.columns where table_catalog = " ++ "?" ++ " and table_name = " ++ "?" ++ "") := rfl
  have hopening : columns.opening c = selectColumns ++ c.config.database ++
      ".information_schema.columns where table_catalog = " ++ c.databaseValue.literal none ++ " and table_name = " := rfl
  have hwritten : columns.written c table = (c.storedTable table).literal none := rfl
  have hclosing : ∀ front : String, front ++ columns.closing c = front := fun _ => String.append_empty
  rw [sends_iff_of_ne (by simp), hsql, hclosing, hopening,
    hwritten, values, surrounds_columns.interpolate_iff h]

lemma sends_columnType_iff (h : LeavesCode c) {column : String} {text : Sent} :
    (columnType column).Sends c table text ↔
      text.mode = .prepared ∧ (Template.parse c.config.database).hasMarkers = false ∧
        text.sql = (columnType column).opening c ++ (columnType column).written c table ++
          (columnType column).closing c := by
  have hsql : (columnType column).sql c table = selectType ++ c.config.database ++
      (".information_schema.columns where table_name = " ++ "?" ++ " and column_name = " ++ "?" ++ "") := rfl
  have hopening : (columnType column).opening c = selectType ++ c.config.database ++
      ".information_schema.columns where table_name = " := rfl
  have hwritten : (columnType column).written c table = (c.storedTable table).literal none := rfl
  have hclosing : ∀ front : String, front ++ (columnType column).closing c =
      front ++ " and column_name = " ++ (c.storedColumn column).literal none := by
    intro front
    show front ++ (" and column_name = " ++ (c.storedColumn column).literal none) = _
    generalize (c.storedColumn column).literal none = name
    exact String.append_assoc.symm
  rw [sends_iff_of_ne (by simp), hsql, hclosing,
    hopening, hwritten, values, surrounds_columnType.interpolate_iff h]

lemma completesNothing_blank : LexState.completesNothing ' ' := by
  refine ⟨?_, ?_, ?_⟩ <;> decide

lemma leads_details (c : Connection) (table : String) : LexState.Leads .code (details.sql c table).toList .code := by
  have hfirst : LexState.Leads .code "select * from information_schema.tables where table_name = ".toList .code :=
    LexState.leads_of_isCalm (by decide)
  have hlast : LexState.Leads .singleEnd " order by ordinal_position".toList .code :=
    Template.leads_of_isCode rfl (by decide) completesNothing_blank (by decide)
  have hchars : ∀ first name last : String,
      (first ++ name ++ last).toList = first.toList ++ name.toList ++ last.toList := by
    intro first name last
    rw [String.toList_append, String.toList_append]
  show LexState.Leads .code ("select * from information_schema.tables where table_name = " ++
    Text.quoteLiteral (c.config.policy.storedTable table) ++ " order by ordinal_position").toList .code
  rw [hchars]
  exact (hfirst.append (leads_quoteLiteral _)).append hlast

lemma sends_details_iff {text : Sent} :
    details.Sends c table text ↔ text = ⟨.direct, details.sql c table⟩ ∧ c.skips (details.sql c table) = false := by
  have hresolution : c.resolution (details.sql c table) (.ofValues (details.values c table)) =
      .ok (if c.skips (details.sql c table) then .skip (details.sql c table) else .direct (details.sql c table)) :=
    Connection.resolve_prepare (Template.hasMarkers_of_leads (leads_details c table))
  rw [Sends, hresolution]
  generalize details.sql c table = sql
  cases c.skips sql <;> simp [Resolution.sent?, eq_comm]

/-! ### how it is read -/

lemma isCode_run_append {front first literal second : String}
    (hfirst : LexState.Leads (LexState.run .code front.toList) first.toList .code) (hliteral : LiteralForm literal.toList)
    (hblank : second.toList.head? = some ' ') (hsecond : second.toList.all LexState.isCalm = true) :
    LexState.run .code (front ++ first ++ literal ++ second).toList = .code := by
  have hcode : (LexState.run .code literal.toList).isCode = true := by
    rw [hliteral.leads.run]
    split_ifs <;> rfl
  rw [String.toList_append, String.toList_append, String.toList_append, LexState.run_append, LexState.run_append,
    LexState.run_append, hfirst.run]
  exact (Template.leads_of_isCode hcode hblank completesNothing_blank hsecond).run

lemma run_opening (h : lookup.writesDatabase = true → LeavesCode c) :
    LexState.run .code (lookup.opening c).toList = .code := by
  cases lookup with
  | existence => exact isCode_run_append leads_equals (c.databaseValue.literalForm_literal none) (by decide) (by decide)
  | columns =>
    exact isCode_run_append (surrounds_columns.leads_first (h rfl)) (c.databaseValue.literalForm_literal none)
      (by decide) (by decide)
  | columnType column =>
    have hleads := surrounds_columnType.leads_first (h rfl)
    show LexState.run .code (selectType ++ c.config.database ++ ".information_schema.columns where table_name = ").toList
      = .code
    rw [String.toList_append, LexState.run_append, hleads.run]
  | details =>
    exact (LexState.leads_of_isCalm (show
      "select * from information_schema.tables where table_name = ".toList.all LexState.isCalm = true by decide)).run

/-- A text that writes the name of the table seeks another name exactly if both are written alike. -/
lemma seeks_iff (h : lookup.writesDatabase = true → LeavesCode c) {stored text : String}
    (htext : text = lookup.opening c ++ lookup.written c table ++ lookup.closing c) :
    lookup.Seeks c stored text ↔ lookup.written c table = Text.quoteLiteral stored := by
  have hcode : (LexState.run .code (lookup.opening c).toList).isCode = true := by
    rw [run_opening h]
    rfl
  rw [Seeks, and_iff_left hcode, htext]
  generalize lookup.opening c = opening
  generalize lookup.closing c = closing
  rw [String.append_left_inj, String.append_right_inj]

lemma getLast?_append_literal (front : String) {literal : String} (h : LiteralForm literal.toList) :
    (front ++ literal).toList.getLast? ≠ some '?' := by
  obtain ⟨_, last, -, hlast, -⟩ := h.exists_ends
  rw [String.toList_append, List.getLast?_append, hlast, Option.some_or, ← hlast]
  exact h.getLast?_ne

/-- What seeks a name ends in a literal, if the lookup writes the name of the database. -/
lemma getLast?_of_seeks (h : lookup.writesDatabase = true) {stored text : String} (hseeks : lookup.Seeks c stored text) :
    text.toList.getLast? ≠ some '?' := by
  rw [hseeks.1]
  cases lookup with
  | existence => cases h
  | columns =>
    have htext : columns.opening c ++ Text.quoteLiteral stored ++ columns.closing c =
        columns.opening c ++ Text.quoteLiteral stored := String.append_empty
    rw [htext]
    exact getLast?_append_literal _ (.quoted stored)
  | columnType column =>
    have hclosing : (columnType column).closing c = " and column_name = " ++ (c.storedColumn column).literal none := rfl
    have hassoc : ∀ front word literal : String, front ++ (word ++ literal) = front ++ word ++ literal :=
      fun _ _ _ => String.append_assoc.symm
    rw [hclosing, hassoc]
    exact getLast?_append_literal _ ((c.storedColumn column).literalForm_literal none)
  | details => cases h

/-- In a region that the name of the database opens, the markers are not replaced. -/
lemma getLast?_of_sends (hdatabase : lookup.writesDatabase = true) (h : ¬ LeavesCode c) {text : Sent}
    (hsends : lookup.Sends c table text) : text.sql.toList.getLast? = some '?' := by
  have hregion : (LexState.run .code c.config.database.toList).isCode = false := Bool.eq_false_iff.2 h
  cases lookup with
  | existence => cases hdatabase
  | columns =>
    obtain ⟨-, hinlined⟩ := (sends_iff_of_ne (by simp)).1 hsends
    exact surrounds_columns.getLast?_eq hregion hinlined
  | columnType column =>
    obtain ⟨-, hinlined⟩ := (sends_iff_of_ne (by simp)).1 hsends
    exact surrounds_columnType.getLast?_eq hregion hinlined
  | details => cases hdatabase

lemma text_of_sends (h : lookup.writesDatabase = true → LeavesCode c) {text : Sent} (hsends : lookup.Sends c table text) :
    text.sql = lookup.opening c ++ lookup.written c table ++ lookup.closing c := by
  cases lookup with
  | existence => exact (sends_existence_iff.1 hsends).2
  | columns => exact ((sends_columns_iff (h rfl)).1 hsends).2.2
  | columnType column => exact ((sends_columnType_iff (h rfl)).1 hsends).2.2
  | details =>
    rw [(sends_details_iff.1 hsends).1]
    rfl

lemma written_eq_quoteLiteral_iff {stored : String} :
    lookup.written c table = Text.quoteLiteral stored ↔
      (lookup = .details ∨ isNumeral (c.config.policy.storedTable table) = false) ∧
        c.config.policy.storedTable table = stored := by
  cases lookup with
  | details => simpa [written] using Text.quoteLiteral_injective.eq_iff
  | existence => simpa [written] using numeralOrQuoted_eq_quoteLiteral_iff
  | columns => simpa [written] using numeralOrQuoted_eq_quoteLiteral_iff
  | columnType column => simpa [written] using numeralOrQuoted_eq_quoteLiteral_iff

/-- A lookup hands a text over, unless the name of the database is in its way or the connection skips the text. -/
lemma exists_sends (hdatabase : lookup.writesDatabase = true →
      LeavesCode c ∧ (Template.parse c.config.database).hasMarkers = false)
    (hskips : lookup = .details → c.skips (details.sql c table) = false) : ∃ text, lookup.Sends c table text := by
  cases lookup with
  | existence => exact ⟨⟨.prepared, _⟩, sends_existence_iff.2 ⟨rfl, rfl⟩⟩
  | columns =>
    obtain ⟨hcode, hmarkers⟩ := hdatabase rfl
    exact ⟨⟨.prepared, _⟩, (sends_columns_iff hcode).2 ⟨rfl, hmarkers, rfl⟩⟩
  | columnType column =>
    obtain ⟨hcode, hmarkers⟩ := hdatabase rfl
    exact ⟨⟨.prepared, _⟩, (sends_columnType_iff hcode).2 ⟨rfl, hmarkers, rfl⟩⟩
  | details => exact ⟨_, sends_details_iff.2 ⟨rfl, hskips rfl⟩⟩

/-- **A lookup seeks the table that is addressed in SQL** exactly if the table has no dot, neither dots nor quotes come
in through the prefix where letter case is folded, its stored name does not look like a number where it is bound as a
value, and the name of the database leaves the text in code where it is written as it is.  A text is handed over unless
the name of the database is in its way or the connection skips the text. -/
theorem seeks_addressed_iff (c : Connection) (s : Session) (lookup : TableLookup) (table : String)
    (hs : s.pretending = false) (hquote : '"' ∉ table.toList) (halias : Name.splitAlias? table = none) :
    ∃ handed : Option Sent,
      (on (c.perform (lookup.step table)) s).2.sent = handed.toList ++ s.sent ∧
      (handed = none →
        lookup.writesDatabase = true ∧
            ¬ (LeavesCode c ∧ (Template.parse c.config.database).hasMarkers = false) ∨
          lookup = .details ∧ c.skips (details.sql c table) = true) ∧
      ∀ text, handed = some text →
        (lookup.Seeks c (c.config.policy.addressed table) text.sql ↔
          '.' ∉ table.toList ∧
          (c.config.policy.caseSensitive = true ∨ ∀ sign ∈ c.config.policy.tablePrefix.toList, sign ≠ '.' ∧ sign ≠ '"') ∧
          (lookup = .details ∨ isNumeral (c.config.policy.storedTable table) = false) ∧
          (lookup.writesDatabase = true → LeavesCode c)) := by
  obtain ⟨handed, hsent, -, hhanded⟩ :=
    c.exists_handed (lookup.sql c table) (.ofValues (lookup.values c table)) hs
  rw [snd_on_perform]
  refine ⟨handed, hsent, fun hnone => ?_, fun text htext => ?_⟩
  · by_contra hway
    obtain ⟨hdatabase, hskips⟩ := not_or.1 hway
    have hsends : ∃ text, lookup.Sends c table text :=
      exists_sends (fun hwrites => not_not.1 fun h => hdatabase ⟨hwrites, h⟩)
        fun hdetails => Bool.eq_false_iff.2 fun h => hskips ⟨hdetails, h⟩
    obtain ⟨text, htext⟩ := hsends
    rw [(hhanded text).2 htext] at hnone
    cases hnone
  · have hsends : lookup.Sends c table text := (hhanded text).1 htext
    by_cases hdatabase : lookup.writesDatabase = true → LeavesCode c
    · rw [seeks_iff hdatabase (text_of_sends hdatabase hsends), written_eq_quoteLiteral_iff,
        Policy.storedTable_eq_addressed_iff hquote halias]
      exact ⟨fun h => ⟨h.2.1, h.2.2, h.1, hdatabase⟩, fun h => ⟨h.2.2.1, h.1, h.2.1⟩⟩
    · -- the name of the database opens a region, so that the text does not end in a literal
      refine iff_of_false (fun hseeks => ?_) fun h => hdatabase h.2.2.2
      obtain ⟨hwrites, hregion⟩ := Classical.not_imp.1 hdatabase
      exact getLast?_of_seeks hwrites hseeks (getLast?_of_sends hwrites hregion hsends)

/-- A connection with a table prefix, which answers no text. -/
def prefixedConnection : Connection :=
  { config := { database := "sales", tablePrefix := "app_" }, raw := DeferredStatement.deadConnection }

theorem seeks_addressed_appEvents :
    '"' ∉ "events".toList ∧ Name.splitAlias? "events" = none ∧
      ∃ text, (on (prefixedConnection.perform (columns.step "events")) {}).2.sent = [text] ∧
        columns.Seeks prefixedConnection "APP_EVENTS" text.sql := by
  have hquote : '"' ∉ "events".toList := by decide
  have halias : Name.splitAlias? "events" = none := by decide
  have haddressed : prefixedConnection.config.policy.addressed "events" = "APP_EVENTS" := by decide +kernel
  have hcode : LeavesCode prefixedConnection := by
    unfold LeavesCode
    decide
  have hmarkers : (Template.parse prefixedConnection.config.database).hasMarkers = false := by decide +kernel
  obtain ⟨handed, hsent, hnone, hseeks⟩ := seeks_addressed_iff prefixedConnection {} columns "events" rfl hquote halias
  cases handed with
  | none =>
    rcases hnone rfl with ⟨-, hway⟩ | ⟨hdetails, -⟩
    · exact absurd ⟨hcode, hmarkers⟩ hway
    · cases hdetails
  | some text =>
    have hsigns : ("app_".toList.all fun sign => sign != '.' && sign != '"') = true := by decide
    refine ⟨hquote, halias, text, hsent, haddressed ▸ (hseeks text rfl).2 ⟨by decide, .inr fun sign hsign => ?_, .inr ?_, ?_⟩⟩
    · simpa using List.all_eq_true.1 hsigns sign hsign
    · decide +kernel
    · exact fun _ => hcode

/-- A lookup does not seek the table that is addressed: of a table with a schema in front it takes the schema for a part
of the name. -/
theorem exists_lookup_astray :
    ¬ ∀ (c : Connection) (lookup : TableLookup) (table : String), '"' ∉ table.toList → Name.splitAlias? table = none →
        ∀ text ∈ (on (c.perform (lookup.step table)) {}).2.sent,
          lookup.Seeks c (c.config.policy.addressed table) text.sql := by
  intro h
  have hseeks := h prefixedConnection existence "analytics.events" (by decide) (by decide)
    ⟨.prepared, "select * from information_schema.tables where table_catalog = 'sales' and table_name = 'APP_ANALYTICS.EVENTS' and table_type = 'BASE TABLE'"⟩
    (by decide +kernel)
  exact absurd hseeks.1 (by decide +kernel)

end TableLookup

end WarehouseSql
