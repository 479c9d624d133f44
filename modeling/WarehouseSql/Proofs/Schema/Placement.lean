import WarehouseSql.Proofs.Schema.Statements

/-!
Where the columns of a blueprint are defined.  An account of statements says which columns each of them defines and
which it modifies (`SchemaDialect.Does`, `SchemaDialect.Accounts`); the number of definitions can be told from the
text alone (`Accounts.length_defined`).  Accounts of commands are put one after another, and so **the new columns are
defined once by every command that creates the table or adds columns, and the changed ones modified once by every
change, listed or implied** (`SchemaDialect.defines_by_commands`).  An addition that is listed repeats the implied one.
-/

namespace WarehouseSql

namespace SchemaDialect

/-! ### accounts -/

/-- The words with which an alteration begins that neither adds nor modifies a column. -/
def otherWords : List String :=
  ["drop column ", "rename column ", "add constraint ", "drop primary key", "drop index ", "drop foreign key ",
    "rename index ", "rename to ", "autoincrement start "]

/-- What a statement does to the columns of a blueprint: those that it defines, and those that it modifies. -/
inductive Does (d : SchemaDialect) (b : Blueprint) :
    String → List ColumnDefinition → List ColumnDefinition → Prop
  | create {columns : List ColumnSql} {suffixes : String}
      (hcolumns : b.addedColumns.mapM (fun column => column.compile d.policy) = .ok columns) :
      Does d b ((if b.temporary then "create temporary table " else "create table ") ++ d.tableOf b ++ " ("
        ++ Text.commaList (columns.map ColumnSql.definition) ++ ")" ++ suffixes) b.addedColumns []
  | add {column : ColumnDefinition} {compiled : ColumnSql} (hcolumn : column.compile d.policy = .ok compiled) :
      Does d b (d.alter b ("add column " ++ compiled.definition)) [column] []
  | modify {column : ColumnDefinition} {compiled : ColumnSql} (hcolumn : column.compile d.policy = .ok compiled) :
      Does d b (d.alter b ("modify column " ++ compiled.changeDefinition)) [] [column]
  | permit {column : ColumnDefinition} {compiled : ColumnSql} {sql : String} (hmem : column ∈ b.changedColumns)
      (hcolumn : column.compile d.policy = .ok compiled) (hnull : d.nullabilityChange b compiled = some sql) :
      Does d b sql [] []
  | alter {word action : String} (hword : word ∈ otherWords) : Does d b (d.alter b (word ++ action)) [] []
  | drop {table : String} : Does d b ("drop table " ++ table) [] []

/-- What statements do to the columns of a blueprint, one statement after another. -/
inductive Accounts (d : SchemaDialect) (b : Blueprint) :
    List String → List ColumnDefinition → List ColumnDefinition → Prop
  | nil : Accounts d b [] [] []
  | cons {sql : String} {statements : List String} {defined modified defined' modified' : List ColumnDefinition}
      (first : Does d b sql defined modified) (rest : Accounts d b statements defined' modified') :
      Accounts d b (sql :: statements) (defined ++ defined') (modified ++ modified')

variable {d : SchemaDialect} {b : Blueprint}

namespace Accounts

variable {statements statements' : List String} {defined modified defined' modified' : List ColumnDefinition}

lemma append (h : d.Accounts b statements defined modified) (h' : d.Accounts b statements' defined' modified') :
    d.Accounts b (statements ++ statements') (defined ++ defined') (modified ++ modified') := by
  induction h with
  | nil => exact h'
  | cons first rest ih =>
    rw [List.append_assoc, List.append_assoc]
    exact .cons first ih

lemma single {sql : String} (h : d.Does b sql defined modified) : d.Accounts b [sql] defined modified := by
  simpa using Accounts.cons h .nil

lemma of_forall (h : ∀ sql ∈ statements, d.Does b sql [] []) : d.Accounts b statements [] [] := by
  induction statements with
  | nil => exact .nil
  | cons sql statements ih =>
    obtain ⟨hfirst, hrest⟩ := List.forall_mem_cons.1 h
    exact .cons hfirst (ih hrest)

end Accounts

/-! ### definitions in the text -/

/-- The number of new columns that a statement defines, told by the words with which it begins. -/
def definitions (d : SchemaDialect) (b : Blueprint) (sql : String) : Nat :=
  if "create ".toList <+: sql.toList then b.addedColumns.length
  else if (d.alter b "add column ").toList <+: sql.toList then 1 else 0

def allDefinitions (d : SchemaDialect) (b : Blueprint) : List String → Nat
  | [] => 0
  | sql :: statements => d.definitions b sql + d.allDefinitions b statements

lemma not_prefix_append {u v : List Char} (huv : ¬ u <+: v) (hvu : ¬ v <+: u) (w : List Char) : ¬ u <+: v ++ w :=
  fun h => (List.prefix_or_prefix_of_prefix h (List.prefix_append v w)).elim huv hvu

lemma definitions_alter (action : String) :
    d.definitions b (d.alter b action) = if "add column ".toList <+: action.toList then 1 else 0 := by
  have hcreate : ¬ "create ".toList <+: (d.alter b action).toList := by
    rw [alter, String.append_assoc, String.append_assoc, String.toList_append]
    exact not_prefix_append (by decide) (by decide) _
  rw [definitions, if_neg hcreate]
  simp only [alter, String.toList_append, List.prefix_append_right_inj]

lemma definitions_alter_append {word : String} (hadd : ¬ "add column ".toList <+: word.toList)
    (hword : ¬ word.toList <+: "add column ".toList) (action : String) :
    d.definitions b (d.alter b (word ++ action)) = 0 := by
  rw [definitions_alter, String.toList_append, if_neg (not_prefix_append hadd hword _)]

lemma definitions_drop (table : String) : d.definitions b ("drop table " ++ table) = 0 := by
  have hcreate : ¬ "create ".toList <+: ("drop table " ++ table).toList := by
    rw [String.toList_append]
    exact not_prefix_append (by decide) (by decide) _
  have hadd : ¬ (d.alter b "add column ").toList <+: ("drop table " ++ table).toList := by
    intro h
    have halter : "alter table ".toList <+: (d.alter b "add column ").toList := by
      rw [alter, String.append_assoc, String.append_assoc, String.toList_append]
      exact List.prefix_append _ _
    have hdrop := halter.trans h
    rw [String.toList_append] at hdrop
    exact not_prefix_append (by decide) (by decide) _ hdrop
  rw [definitions, if_neg hcreate, if_neg hadd]

lemma definitions_create (rest : String) :
    d.definitions b ((if b.temporary then "create temporary table " else "create table ") ++ rest) =
      b.addedColumns.length := by
  have hcreate : "create ".toList <+: (if b.temporary then "create temporary table " else "create table ").toList := by
    split_ifs <;> decide
  rw [definitions, String.toList_append, if_pos (hcreate.trans (List.prefix_append _ _))]

/-- How many columns a statement defines can be told from its text. -/
lemma Does.length_defined {sql : String} {defined modified : List ColumnDefinition}
    (h : d.Does b sql defined modified) : defined.length = d.definitions b sql := by
  cases h with
  | create hcolumns =>
    simp only [String.append_assoc]
    exact (definitions_create _).symm
  | add hcolumn =>
    rw [definitions_alter, String.toList_append, if_pos (List.prefix_append _ _)]
    rfl
  | modify hcolumn => exact (definitions_alter_append (by decide) (by decide) _).symm
  | permit _ _ hnull =>
    obtain ⟨nullable, -, rfl⟩ := Option.map_eq_some_iff.1 hnull
    rw [String.append_assoc, definitions_alter_append (by decide) (by decide)]
    rfl
  | alter hword =>
    have hother : ∀ word ∈ otherWords,
        ¬ "add column ".toList <+: word.toList ∧ ¬ word.toList <+: "add column ".toList := by decide
    exact (definitions_alter_append (hother _ hword).1 (hother _ hword).2 _).symm
  | drop => exact (definitions_drop _).symm

lemma Accounts.length_defined {statements : List String} {defined modified : List ColumnDefinition}
    (h : d.Accounts b statements defined modified) : defined.length = d.allDefinitions b statements := by
  induction h with
  | nil => rfl
  | cons first rest ih => rw [List.length_append, first.length_defined, ih, allDefinitions]

/-! ### commands -/

lemma accounts_create {sql : String} (h : d.create b = .ok sql) : d.Accounts b [sql] b.addedColumns [] := by
  obtain ⟨columns, hcolumns, h⟩ := Compiled.bind_eq_ok.1 h
  cases hempty : columns.isEmpty with
  | true =>
    rw [hempty] at h
    cases h
  | false =>
    rw [hempty] at h
    obtain rfl := Except.ok.inj h
    rw [String.append_assoc, String.append_assoc]
    exact .single (.create hcolumns)

lemma accounts_addColumns {statements : List String} (h : d.addColumns b = .ok statements) :
    d.Accounts b statements b.addedColumns [] := by
  replace h := Compiled.mapM_eq_ok_iff.1 h
  generalize b.addedColumns = columns at h
  induction h with
  | nil => exact .nil
  | cons hsql _ ih =>
    obtain ⟨compiled, hcompiled, hsql⟩ := Compiled.bind_eq_ok.1 hsql
    obtain rfl := Except.ok.inj hsql
    exact .cons (.add hcompiled) ih

lemma accounts_modifications {definitions : List ColumnDefinition} {columns : List ColumnSql}
    (h : List.Forall₂ (fun column compiled => column.compile d.policy = .ok compiled) definitions columns) :
    d.Accounts b (columns.map fun c => d.alter b ("modify column " ++ c.changeDefinition)) [] definitions := by
  induction h with
  | nil => exact .nil
  | cons hcompiled _ ih => exact .cons (.modify hcompiled) ih

lemma accounts_changeColumns {statements : List String} (h : d.changeColumns b = .ok statements) :
    d.Accounts b statements [] b.changedColumns := by
  obtain ⟨columns, hcolumns, h⟩ := Compiled.bind_eq_ok.1 h
  obtain rfl := Except.ok.inj h
  have hnull : d.Accounts b (columns.filterMap (d.nullabilityChange b)) [] [] := .of_forall fun sql hsql => by
    obtain ⟨column, hcolumn, hsaid⟩ := List.mem_filterMap.1 hsql
    obtain ⟨definition, hmem, hcompile⟩ := exists_of_mapM_eq_ok hcolumns column hcolumn
    exact .permit hmem hcompile hsaid
  have hrestarts : d.Accounts b (b.changedColumns.filterMap (d.restart b)) [] [] := .of_forall fun sql hsql => by
    obtain ⟨definition, -, hrestart⟩ := List.mem_filterMap.1 hsql
    unfold restart at hrestart
    split_ifs at hrestart
    obtain ⟨start, -, rfl⟩ := Option.map_eq_some_iff.1 hrestart
    exact .alter (by decide)
  simpa using ((accounts_modifications (Compiled.mapM_eq_ok_iff.1 hcolumns)).append hnull).append hrestarts

end SchemaDialect

namespace Blueprint

def definedBy (b : Blueprint) : Command → List ColumnDefinition
  | .create => b.addedColumns
  | .add => b.addedColumns
  | _ => []

def modifiedBy (b : Blueprint) : Command → List ColumnDefinition
  | .change => b.changedColumns
  | _ => []

end Blueprint

namespace SchemaDialect

variable {d : SchemaDialect} {b : Blueprint}

lemma exists_append_commaList (piece : String) (pieces : List String) :
    ∃ more, Text.commaList (piece :: pieces) = piece ++ more := by
  cases pieces with
  | nil => exact ⟨"", by rw [Text.commaList, String.intercalate_singleton, String.append_empty]⟩
  | cons next pieces => exact ⟨_, by rw [Text.commaList, String.intercalate_cons_cons, String.append_assoc]⟩

lemma does_addKey {kind : KeyKind} {key : Key} {sql : String} (h : d.addKey b kind key = .ok sql) :
    d.Does b sql [] [] := by
  unfold addKey at h
  obtain ⟨-, -, h⟩ := Compiled.bind_eq_ok.1 h
  split_ifs at h
  · cases h
  · obtain rfl := Except.ok.inj h
    simp only [String.append_assoc]
    exact .alter (by decide)

lemma does_addForeign {key : ForeignKey} {sql : String} (h : d.addForeign b key = .ok sql) : d.Does b sql [] [] := by
  unfold addForeign at h
  split_ifs at h
  · cases h
  · obtain ⟨deletion, -, h⟩ := Compiled.bind_eq_ok.1 h
    obtain ⟨update, -, h⟩ := Compiled.bind_eq_ok.1 h
    obtain rfl := Except.ok.inj h
    simp only [alter_append, String.append_assoc]
    exact .alter (by decide)

/-- A command creates with all new columns, adds them one by one, changes the changed ones, or concerns no column. -/
lemma accounts_command {c : Command} {statements : List String} (h : d.command b c = .ok statements) :
    d.Accounts b statements (b.definedBy c) (b.modifiedBy c) := by
  -- only additions and changes begin with the words that count
  cases c with
  | create =>
    obtain ⟨sql, hsql, h⟩ := Compiled.bind_eq_ok.1 h
    obtain rfl := Except.ok.inj h
    exact accounts_create hsql
  | add => exact accounts_addColumns h
  | change => exact accounts_changeColumns h
  | dropColumns columns =>
    simp only [command] at h
    split_ifs at h with hempty
    obtain rfl := Except.ok.inj h
    cases columns with
    | nil => exact absurd rfl hempty
    | cons column columns =>
      rw [List.map_cons]
      obtain ⟨more, hmore⟩ := exists_append_commaList ("drop column " ++ d.policy.columnName column)
        (columns.map fun column => "drop column " ++ d.policy.columnName column)
      rw [hmore, String.append_assoc]
      exact .single (.alter (by decide))
  | renameColumn old new =>
    obtain rfl := Except.ok.inj h
    simp only [String.append_assoc]
    exact .single (.alter (by decide))
  | addKey kind key =>
    obtain ⟨sql, hsql, h⟩ := Compiled.bind_eq_ok.1 h
    obtain rfl := Except.ok.inj h
    exact .single (does_addKey hsql)
  | addForeign key =>
    obtain ⟨sql, hsql, h⟩ := Compiled.bind_eq_ok.1 h
    obtain rfl := Except.ok.inj h
    exact .single (does_addForeign hsql)
  | dropPrimary =>
    obtain rfl := Except.ok.inj h
    have hdrop : d.Does b (d.alter b ("drop primary key" ++ "")) [] [] := .alter (by decide)
    exact .single hdrop
  | dropUnique name =>
    obtain rfl := Except.ok.inj h
    exact .single (.alter (by decide))
  | dropIndex name =>
    obtain ⟨-, -, h⟩ := Compiled.bind_eq_ok.1 h
    obtain rfl := Except.ok.inj h
    exact .single (.alter (by decide))
  | dropSpatial name =>
    obtain ⟨-, -, h⟩ := Compiled.bind_eq_ok.1 h
    obtain rfl := Except.ok.inj h
    exact .single (.alter (by decide))
  | dropForeign name =>
    obtain rfl := Except.ok.inj h
    exact .single (.alter (by decide))
  | renameIndex old new =>
    obtain ⟨-, -, h⟩ := Compiled.bind_eq_ok.1 h
    obtain rfl := Except.ok.inj h
    simp only [String.append_assoc]
    exact .single (.alter (by decide))
  | drop =>
    obtain rfl := Except.ok.inj h
    exact .single .drop
  | dropIfExists =>
    obtain rfl := Except.ok.inj h
    have hdrop : d.Does b ("drop table " ++ ("if exists " ++ d.tableOf b)) [] [] := .drop
    rw [← String.append_assoc] at hdrop
    exact .single hdrop
  | rename name =>
    obtain rfl := Except.ok.inj h
    exact .single (.alter (by decide))

lemma exists_of_commands_append {cs cs' : List Command} {statements : List String}
    (h : d.commands b (cs ++ cs') = .ok statements) :
    ∃ first second, d.commands b cs = .ok first ∧ d.commands b cs' = .ok second ∧ statements = first ++ second := by
  induction cs generalizing statements with
  | nil => exact ⟨[], statements, rfl, h, rfl⟩
  | cons c cs ih =>
    obtain ⟨part, hpart, h⟩ := Compiled.bind_eq_ok.1 h
    obtain ⟨rest, hrest, h⟩ := Compiled.bind_eq_ok.1 h
    obtain rfl := Except.ok.inj h
    obtain ⟨first, second, hfirst, hsecond, rfl⟩ := ih hrest
    refine ⟨part ++ first, second, ?_, hsecond, (List.append_assoc _ _ _).symm⟩
    rw [commands, hpart, hfirst]
    rfl

lemma accounts_parts {parts : List (Command × List String)}
    (h : ∀ part ∈ parts, d.command b part.1 = .ok part.2) :
    d.Accounts b (parts.flatMap Prod.snd) ((parts.map Prod.fst).flatMap b.definedBy)
      ((parts.map Prod.fst).flatMap b.modifiedBy) := by
  induction parts with
  | nil => exact .nil
  | cons part parts ih =>
    obtain ⟨hfirst, hrest⟩ := List.forall_mem_cons.1 h
    exact (accounts_command hfirst).append (ih hrest)

end SchemaDialect

namespace Blueprint

variable (b : Blueprint)

/-- How often the new columns are defined: once if the table is not created, and once by each command that creates it
or adds columns. -/
def additions : Nat := (if b.creates then 0 else 1) + b.commands.count .create + b.commands.count .add

/-- How often the changed columns are modified: once, and once more by each command that changes columns. -/
def changes : Nat := b.commands.count .change + 1

lemma additions_eq_one (hcreate : b.commands.count .create ≤ 1) (hadd : .add ∉ b.commands) : b.additions = 1 := by
  rw [additions, List.count_eq_zero_of_not_mem hadd]
  cases hcreates : b.creates with
  | true =>
    have hmem : 0 < b.commands.count .create := List.count_pos_iff.2 (List.contains_iff_mem.1 hcreates)
    simp
    omega
  | false =>
    have hmem : b.commands.count .create = 0 := by
      refine List.count_eq_zero_of_not_mem fun hmem => ?_
      rw [creates, List.contains_iff_mem.2 hmem] at hcreates
      cases hcreates
    simp [hmem]

lemma changes_eq_one (hchange : .change ∉ b.commands) : b.changes = 1 := by
  rw [changes, List.count_eq_zero_of_not_mem hchange]

lemma flatMap_definedBy (cs : List Command) :
    cs.flatMap b.definedBy = (List.replicate (cs.count .create + cs.count .add) b.addedColumns).flatten := by
  induction cs with
  | nil => rfl
  | cons c cs ih =>
    rw [List.flatMap_cons, ih]
    cases c <;> simp [definedBy, List.replicate_succ, ← Nat.add_assoc, Nat.add_right_comm _ 1]

lemma flatMap_modifiedBy (cs : List Command) :
    cs.flatMap b.modifiedBy = (List.replicate (cs.count .change) b.changedColumns).flatten := by
  induction cs with
  | nil => rfl
  | cons c cs ih =>
    rw [List.flatMap_cons, ih]
    cases c <;> simp [modifiedBy, List.replicate_succ]

/-- Keys define and modify no column. -/
lemma flatMap_impliedKeys {f : Command → List ColumnDefinition} (hf : ∀ kind key, f (.addKey kind key) = []) :
    (b.columns.flatMap impliedKeys).flatMap f = [] := by
  refine List.flatMap_eq_nil_iff.2 fun c hc => ?_
  obtain ⟨column, -, hc⟩ := List.mem_flatMap.1 hc
  simp only [impliedKeys, List.mem_append, List.mem_ite_nil_right, List.mem_singleton] at hc
  rcases hc with (⟨-, rfl⟩ | ⟨-, rfl⟩) | ⟨-, rfl⟩ <;> exact hf _ _

lemma flatMap_definedBy_allCommands :
    b.allCommands.flatMap b.definedBy = (List.replicate b.additions b.addedColumns).flatten := by
  have hchange : (if b.changedColumns.isEmpty then [] else [Command.change]).flatMap b.definedBy = [] := by
    split_ifs <;> rfl
  have hadd : (if b.creates || b.addedColumns.isEmpty then [] else [Command.add]).flatMap b.definedBy =
      (List.replicate (if b.creates then 0 else 1) b.addedColumns).flatten := by
    cases b.creates with
    | true => rfl
    | false =>
      cases hadded : b.addedColumns with
      | nil => rfl
      | cons column columns => simp [definedBy, hadded]
  rw [allCommands, List.flatMap_append, List.flatMap_append, List.flatMap_append, hchange, hadd, flatMap_definedBy,
    b.flatMap_impliedKeys fun _ _ => rfl, List.append_nil, List.nil_append, ← List.flatten_append,
    List.replicate_append_replicate, ← Nat.add_assoc]
  rfl

lemma flatMap_modifiedBy_allCommands :
    b.allCommands.flatMap b.modifiedBy = (List.replicate b.changes b.changedColumns).flatten := by
  have hchange : (if b.changedColumns.isEmpty then [] else [Command.change]).flatMap b.modifiedBy =
      b.changedColumns := by
    cases hchanged : b.changedColumns with
    | nil => rfl
    | cons column columns => simp [modifiedBy, hchanged]
  have hadd : (if b.creates || b.addedColumns.isEmpty then [] else [Command.add]).flatMap b.modifiedBy = [] := by
    split_ifs <;> rfl
  rw [allCommands, List.flatMap_append, List.flatMap_append, List.flatMap_append, hchange, hadd, flatMap_modifiedBy,
    b.flatMap_impliedKeys fun _ _ => rfl, List.append_nil, List.append_nil, changes, List.replicate_succ,
    List.flatten_cons]

end Blueprint

namespace SchemaDialect

/-- What a blueprint compiles to defines the new columns and modifies the changed ones as often as its commands say. -/
lemma accounts_of_statements {d : SchemaDialect} {b : Blueprint} {statements : List String}
    (h : d.statements b = .ok statements) :
    d.Accounts b statements (List.replicate b.additions b.addedColumns).flatten
      (List.replicate b.changes b.changedColumns).flatten := by
  obtain ⟨parts, hcommands, hparts, rfl⟩ := exists_parts_of_commands h
  rw [← b.flatMap_definedBy_allCommands, ← b.flatMap_modifiedBy_allCommands, ← hcommands]
  exact accounts_parts hparts

/-- **Every new column is defined once by each command that creates the table or adds columns, listed or implied, and
every changed column is modified once by each change, listed or implied**: all of them once, if nothing of the kind
is listed beyond one creation.  The listed commands compile in their order. -/
theorem defines_by_commands (d : SchemaDialect) (b : Blueprint) {statements : List String}
    (h : d.statements b = .ok statements) :
    d.Accounts b statements (List.replicate b.additions b.addedColumns).flatten
        (List.replicate b.changes b.changedColumns).flatten ∧
      d.allDefinitions b statements = b.additions * b.addedColumns.length ∧
      (b.commands.count .create ≤ 1 → .add ∉ b.commands → .change ∉ b.commands →
        d.Accounts b statements b.addedColumns b.changedColumns) ∧
      ∃ (before after : List String) (parts : List (Command × List String)), parts.map Prod.fst = b.commands ∧
        (∀ part ∈ parts, d.command b part.1 = .ok part.2) ∧
          statements = before ++ parts.flatMap Prod.snd ++ after := by
  have haccounts := accounts_of_statements h
  refine ⟨haccounts, ?_, fun hcreate hadd hchange => ?_, ?_⟩
  · rw [← haccounts.length_defined, List.length_flatten, List.map_replicate, List.sum_replicate_nat]
  · rw [b.additions_eq_one hcreate hadd, b.changes_eq_one hchange] at haccounts
    simpa using haccounts
  · obtain ⟨earlier, keys, hearlier, -, rfl⟩ := exists_of_commands_append h
    obtain ⟨implied, listed, -, hlisted, rfl⟩ := exists_of_commands_append hearlier
    obtain ⟨parts, hcommands, hparts, rfl⟩ := exists_parts_of_commands hlisted
    exact ⟨implied, keys, parts, hcommands, hparts, rfl⟩

/-- The dialect that leaves out what the warehouse lacks, without a prefix and without defaults. -/
def plain : SchemaDialect := { policy := {}, strictness := .lenient, defaults := {} }

/-- A table of guests that is created with a column, whose other column changes, and that is renamed. -/
def renamedGuests : Blueprint :=
  { table := "guest"
    columns := [{ name := "age", type := .integer, unique := true }, { name := "name", type := .text, change := true }]
    commands := [.create, .rename "visitor"] }

def renamedGuestsSql : List String :=
  ["alter table GUEST modify column NAME text", "alter table GUEST modify column NAME set not null",
    "create table GUEST (AGE int not null)", "alter table GUEST rename to VISITOR",
    "alter table GUEST add constraint GUEST_AGE_UNIQUE unique (AGE)"]

theorem defines_by_commands_renamedGuests :
    plain.statements renamedGuests = .ok renamedGuestsSql ∧
      plain.allDefinitions renamedGuests renamedGuestsSql = 1 ∧
      plain.Accounts renamedGuests renamedGuestsSql renamedGuests.addedColumns renamedGuests.changedColumns ∧
      ∃ (before after : List String) (parts : List (Command × List String)),
        parts.map Prod.fst = renamedGuests.commands ∧
          (∀ part ∈ parts, plain.command renamedGuests part.1 = .ok part.2) ∧
            renamedGuestsSql = before ++ parts.flatMap Prod.snd ++ after := by
  have hstatements : plain.statements renamedGuests = .ok renamedGuestsSql := by decide +kernel
  obtain ⟨-, hdefinitions, honce, hlisted⟩ := defines_by_commands plain renamedGuests hstatements
  exact ⟨hstatements, hdefinitions, honce (by decide) (by decide) (by decide), hlisted⟩

/-- Guests with a new column and a listed addition. -/
def agedGuests : Blueprint :=
  { table := "guest", columns := [{ name := "age", type := .integer }], commands := [.add] }

def agedGuestsSql : List String :=
  ["alter table GUEST add column AGE int not null", "alter table GUEST add column AGE int not null"]

/-- A listed addition defines again what is added anyway. -/
theorem defines_twice_agedGuests :
    plain.statements agedGuests = .ok agedGuestsSql ∧
      ¬ ∃ defined modified, plain.Accounts agedGuests agedGuestsSql defined modified ∧
        defined.Perm agedGuests.addedColumns ∧ modified.Perm agedGuests.changedColumns := by
  refine ⟨by decide +kernel, ?_⟩
  rintro ⟨defined, modified, haccounts, hdefined, -⟩
  have htwice : plain.allDefinitions agedGuests agedGuestsSql = 2 := by decide +kernel
  have honce : agedGuests.addedColumns.length = 1 := rfl
  rw [← haccounts.length_defined, hdefined.length_eq, honce] at htwice
  cases htwice

end SchemaDialect

end WarehouseSql
