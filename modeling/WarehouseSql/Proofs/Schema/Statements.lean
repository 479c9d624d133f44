import WarehouseSql.Proofs.Name.Spelling
import WarehouseSql.Proofs.Query.RawFree
import WarehouseSql.Proofs.Template.Code
import WarehouseSql.Schema.Compile

/-!
The statements of schema changes without raw SQL under a case-sensitive policy.  Every part of a statement is tame: names
and comments stand in quotes, and no other part has the two letters `ai`.  **A statement has no markers, and the words
`add constraint` stand in its code exactly if the command adds a constraint** (`SchemaDialect.tells_command`), whatever
comments, defaults, values and names it holds.
-/

namespace WarehouseSql

open LexState Template

/-! ### descriptions without raw SQL -/

/-- Whether a column has nothing that is written as it stands. -/
def ColumnDefinition.isRawFree (c : ColumnDefinition) : Bool :=
  c.charset.isNone && c.virtualAs.isNone && c.storedAs.isNone && c.default.all Operand.isValue

def Command.isRawFree : Command → Bool
  | .addKey _ key => key.algorithm.isNone
  | _ => true

def Blueprint.isRawFree (b : Blueprint) : Bool :=
  b.charset.isNone && b.engine.isNone && b.columns.all ColumnDefinition.isRawFree && b.commands.all Command.isRawFree

def TableDefaults.isRawFree (defaults : TableDefaults) : Bool := defaults.charset.isNone && defaults.engine.isNone

/-- Whether a command adds a constraint: a key or a foreign key. -/
def Command.addsConstraint : Command → Bool
  | .addKey _ _ => true
  | .addForeign _ => true
  | _ => false

/-- Commands that follow from columns have no raw SQL either. -/
lemma isRawFree_of_mem_allCommands {b : Blueprint} (h : b.isRawFree = true) :
    ∀ command ∈ b.allCommands, command.isRawFree = true := by
  have himplied : ∀ column : ColumnDefinition, ∀ command ∈ Blueprint.impliedKeys column, command.isRawFree = true := by
    intro column command hcommand
    simp only [Blueprint.impliedKeys, List.mem_append] at hcommand
    rcases hcommand with (hcommand | hcommand) | hcommand
    all_goals
      split_ifs at hcommand
      · rw [List.mem_singleton.1 hcommand]
        rfl
      · exact absurd hcommand List.not_mem_nil
  rw [Blueprint.isRawFree, Bool.and_eq_true] at h
  intro command hcommand
  rw [Blueprint.allCommands, List.mem_append, List.mem_append, List.mem_append] at hcommand
  -- implied changes, implied additions, listed commands, and the keys of single columns
  rcases hcommand with ((hcommand | hcommand) | hcommand) | hcommand
  · split_ifs at hcommand
    · exact absurd hcommand List.not_mem_nil
    · rw [List.mem_singleton.1 hcommand]
      rfl
  · split_ifs at hcommand
    · exact absurd hcommand List.not_mem_nil
    · rw [List.mem_singleton.1 hcommand]
      rfl
  · exact List.all_eq_true.1 h.2 command hcommand
  · obtain ⟨column, -, hcommand⟩ := List.mem_flatMap.1 hcommand
    exact himplied column command hcommand

/-! ### words, names and numbers -/

namespace Tame

lemma intercalate {separator : String} (hseparator : Tame separator) {pieces : List String}
    (h : ∀ piece ∈ pieces, Tame piece) : Tame (String.intercalate separator pieces) :=
  Fragment.intercalate_induction (.word (by decide)) .append hseparator h

lemma commaList {α : Type} {write : α → String} {items : List α} (h : ∀ item ∈ items, Tame (write item)) :
    Tame (Text.commaList (items.map write)) := by
  refine .intercalate (.word (by decide)) fun piece hpiece => ?_
  obtain ⟨item, hitem, rfl⟩ := List.mem_map.1 hpiece
  exact h item hitem

lemma integerText (n : Int) : Tame (integerText n) := .of_isSigned (isPlain_integerText n).isSigned

lemma booleanKeyword (flag : Bool) : Tame (booleanKeyword flag) := by
  cases flag <;> exact .word (by decide)

lemma text (number : Binary64) : Tame number.text := by
  cases number with
  | nan => exact .word (by decide)
  | infinite negative =>
    cases negative with
    | false => exact .word (by decide)
    | true =>
      have hinf : Leads .code "inf".toList .code := leads_of_isCalm (by decide)
      have hleads : Leads .code "-inf".toList .code :=
        .cons (fun _ _ => opensMarker_of_ne (by decide) (by decide))
          (.of_isCode rfl ⟨by decide, by decide, by decide⟩ hinf)
      have hne : "-inf".toList.all (fun c => c.toLower != 'a') = true := by decide
      exact .of_forall_ne (clean_of_leads (.inl rfl) hleads) fun c hc => bne_iff_ne.1 (List.all_eq_true.1 hne c hc)
  | finite negative magnitude => exact .of_isSigned (isPlain_text rfl).isSigned

end Tame

namespace Policy

variable {policy : Policy} (hcase : policy.caseSensitive = true)

include hcase

lemma spells_tame : policy.Spells Tame where
  append := .append
  word := by
    have hwords : ∀ text ∈ nameWords, IsWord text := by decide
    exact fun text htext => .word (hwords text htext)
  selector keys hcolumn := by
    have hopen : Tame "get_path(" := .word (by decide)
    have hcomma : Tame ", " := .word (by decide)
    exact (((hopen.append hcolumn).append hcomma).append (.quoteLiteral keys)).append (.word (by decide))
  identifier := by
    intro name _
    rw [identifier]
    split_ifs with hstar
    · rw [hstar]
      exact .word (by decide)
    · exact .quoteIdentifier name

lemma tame_identifier (name : String) : Tame (policy.identifier name) :=
  (spells_tame hcase).identifier (admits_of_caseSensitive hcase name)

lemma tame_columnName (name : String) : Tame (policy.columnName name) :=
  (spells_tame hcase).columnName (admits_of_caseSensitive hcase _) (admits_of_caseSensitive hcase _)

lemma tame_columnNames (names : List String) : Tame (policy.columnNames names) :=
  .commaList fun name _ => tame_columnName hcase name

lemma tame_table (name : String) : Tame (policy.table (.name name)) :=
  (spells_tame hcase).tableWithPrefix (admits_of_caseSensitive hcase _) (admits_of_caseSensitive hcase _)

end Policy

/-! ### columns -/

structure ColumnSql.IsTame (column : ColumnSql) : Prop where
  name : Tame column.name
  type : Tame column.type
  modifiers : ∀ modifier ∈ column.modifiers, Tame modifier.sql

namespace ColumnDefinition

variable {c : ColumnDefinition}

lemma tame_withPrecision {type : String} (h : Tame type) : Tame (c.withPrecision type) := by
  unfold withPrecision
  split
  · exact ((h.append (.word (by decide))).append (.integerText _)).append (.word (by decide))
  · exact h

lemma tame_withSizes {type : String} (h : Tame type) : Tame (c.withSizes type) := by
  unfold withSizes
  split
  · next total places _ _ =>
    have hopen : Tame (type ++ "(" ++ countText total) := (h.append (.word (by decide))).append (.integerText _)
    have hcomma : Tame (type ++ "(" ++ countText total ++ ", ") := hopen.append (.word (by decide))
    exact (hcomma.append (.integerText _)).append (.word (by decide))
  · exact h

lemma tame_withLength {type : String} (h : Tame type) : Tame (c.withLength type) :=
  ((h.append (.word (by decide))).append (.integerText _)).append (.word (by decide))

lemma tame_withAllowed {type : String} (h : Tame type) : Tame (c.withAllowed type) :=
  ((h.append (.word (by decide))).append (.commaList fun value _ => .quoteLiteral value)).append (.word (by decide))

/-- Types are tame: a word, and perhaps sizes or allowed values in parentheses. -/
lemma tame_sqlType {type : String} (h : c.sqlType = .ok type) : Tame type := by
  unfold sqlType at h
  cases hc : c.type <;> rw [hc] at h <;> cases h
  case char | string => exact tame_withLength (.word (by decide))
  case float | double => exact tame_withSizes (.word (by decide))
  case enum | set => exact tame_withAllowed (.word (by decide))
  case dateTime | dateTimeTz | time | timeTz | timestamp | timestampTz => exact tame_withPrecision (.word (by decide))
  case decimal =>
    have htotal : Tame ("decimal(" ++ countText (c.total.getD 8)) := .append (.word (by decide)) (.integerText _)
    have hplaces : Tame ("decimal(" ++ countText (c.total.getD 8) ++ ", " ++ countText (c.places.getD 2)) :=
      (htotal.append (.word (by decide))).append (.integerText _)
    exact hplaces.append (.word (by decide))
  all_goals exact .word (by decide)

/-- What makes a column follow the current time has every property that its words have and that appending keeps. -/
lemma currentModifiers_induction {P : String → Prop} (hempty : P "")
    (happend : ∀ {s t : String}, P s → P t → P (s ++ t)) (hspace : P " ") (hdefault : P "default ")
    (hupdate : P "on update ") (hdate : P "CURRENT_TIMESTAMP")
    (hstamp : P (c.withPrecision "CURRENT_TIMESTAMP")) :
    ∀ modifier ∈ c.currentModifiers, ∃ sql, modifier = .current sql ∧ P sql := by
  have hdates : ∀ modifier ∈ if c.useCurrent then [Modifier.current "default CURRENT_TIMESTAMP"] else [],
      ∃ sql, modifier = .current sql ∧ P sql := by
    split_ifs
    · exact List.forall_mem_singleton.2 ⟨_, rfl, happend hdefault hdate⟩
    · exact List.forall_mem_nil _
  have hstamps : ∀ parts : List String, (∀ part ∈ parts, P part) →
      ∀ modifier ∈ if parts.isEmpty then [] else [Modifier.current (String.intercalate " " parts)],
        ∃ sql, modifier = .current sql ∧ P sql := by
    intro parts hparts
    split_ifs
    · exact List.forall_mem_nil _
    · exact List.forall_mem_singleton.2 ⟨_, rfl, Fragment.intercalate_induction hempty happend hspace hparts⟩
  have hparts : ∀ part ∈ (if c.useCurrent then ["default " ++ c.withPrecision "CURRENT_TIMESTAMP"] else [])
      ++ (if c.useCurrentOnUpdate then ["on update " ++ c.withPrecision "CURRENT_TIMESTAMP"] else []), P part := by
    intro part hpart
    simp only [List.mem_append, List.mem_ite_nil_right, List.mem_singleton] at hpart
    rcases hpart with ⟨-, rfl⟩ | ⟨-, rfl⟩
    · exact happend hdefault hstamp
    · exact happend hupdate hstamp
  unfold currentModifiers
  split
  · exact hdates
  · exact hdates
  · exact hstamps _ hparts
  · exact hstamps _ hparts
  · exact List.forall_mem_nil _

lemma tame_currentModifiers : ∀ modifier ∈ c.currentModifiers, Tame modifier.sql := by
  intro modifier hmodifier
  have hstamp : Tame (c.withPrecision "CURRENT_TIMESTAMP") := tame_withPrecision (.word (by decide))
  obtain ⟨sql, rfl, hsql⟩ := currentModifiers_induction (.word (by decide)) .append (.word (by decide))
    (.word (by decide)) (.word (by decide)) (.word (by decide)) hstamp modifier hmodifier
  exact hsql

/-- The default of a column in SQL is a keyword, a number, what stands for a double that is none, SQL as it is given, or
a quoted text. -/
lemma defaultSql?_cases {type : ColumnType} {operand : Operand} {sql : String}
    (h : defaultSql? type operand = some sql) :
    operand = .raw sql ∨ (∃ flag, sql = booleanKeyword flag) ∨ IsSigned sql.toList ∨
      (∃ number, sql = Binary64.text number) ∨
      ∃ content, operand = .value (.text content) ∧ type ≠ .boolean ∧ sql = Text.quoteLiteral content := by
  cases operand with
  | raw sql' =>
    obtain rfl := Option.some.inj h
    exact .inl rfl
  | value v =>
    have hkeyword : ∀ flag, some (booleanKeyword flag) = some sql → ∃ flag, sql = booleanKeyword flag :=
      fun flag hsql => ⟨flag, (Option.some.inj hsql).symm⟩
    cases v with
    | null => cases h
    | bool flag => exact .inr (.inl (hkeyword _ h))
    | int number =>
      simp only [defaultSql?] at h
      split_ifs at h
      · exact .inr (.inl (hkeyword _ h))
      · obtain rfl := Option.some.inj h
        exact .inr (.inr (.inl (isPlain_integerText _).isSigned))
    | float number =>
      simp only [defaultSql?] at h
      split_ifs at h
      · exact .inr (.inl (hkeyword _ h))
      · obtain rfl := Option.some.inj h
        exact .inr (.inr (.inr (.inl ⟨number, rfl⟩)))
    | text content =>
      simp only [defaultSql?] at h
      split_ifs at h with hboolean hnumeral
      · exact .inr (.inl (hkeyword _ h))
      · obtain rfl := Option.some.inj h
        obtain ⟨numeral, hread⟩ := Option.isSome_iff_exists.1 hnumeral
        refine .inr (.inr (.inl ?_))
        rw [Text.trim, String.toList_ofList]
        exact isSigned_of_read? hread
      · exact .inr (.inr (.inr (.inr ⟨content, rfl, hboolean, (Option.some.inj h).symm⟩)))

lemma tame_defaultSql {type : ColumnType} {operand : Operand} (hvalue : operand.isValue = true) {sql : String}
    (h : defaultSql? type operand = some sql) : Tame sql := by
  rcases defaultSql?_cases h with rfl | ⟨flag, rfl⟩ | hsigned | ⟨number, rfl⟩ | ⟨content, -, -, rfl⟩
  · cases hvalue
  · exact .booleanKeyword flag
  · exact .of_isSigned hsigned
  · exact .text number
  · exact .quoteLiteral content

lemma tame_nullability : ∀ modifier ∈ c.nullability, Tame modifier.sql := by
  unfold nullability
  split
  · exact List.forall_mem_singleton.2 (.word (by decide))
  · exact List.forall_mem_singleton.2 (.word (by decide))
  · exact List.forall_mem_singleton.2 (.word (by decide))
  · exact List.forall_mem_nil _

lemma tame_optional {α : Type} {said : Option α} {modifier : α → Modifier}
    (h : ∀ a, said = some a → Tame (modifier a).sql) : ∀ m ∈ (said.map modifier).toList, Tame m.sql := by
  cases said with
  | none => exact List.forall_mem_nil _
  | some a => exact List.forall_mem_singleton.2 (h a rfl)

lemma tame_conditional {condition : Bool} {modifier : Modifier} (h : Tame modifier.sql) :
    ∀ m ∈ if condition then [modifier] else [], Tame m.sql := by
  cases condition with
  | false => exact List.forall_mem_nil _
  | true => exact List.forall_mem_singleton.2 h

lemma tame_modifiers {policy : Policy} (hcase : policy.caseSensitive = true) (hraw : c.isRawFree = true) :
    ∀ modifier ∈ c.modifiers policy, Tame modifier.sql := by
  simp only [isRawFree, Bool.and_eq_true, Option.isNone_iff_eq_none] at hraw
  obtain ⟨⟨⟨hcharset, hvirtual⟩, hstored⟩, hdefault⟩ := hraw
  have hdefaults : ∀ sql, c.default.bind (defaultSql? c.type) = some sql → Tame (Modifier.default sql).sql := by
    intro sql hsql
    obtain ⟨operand, hoperand, hsql⟩ := Option.bind_eq_some_iff.1 hsql
    rw [hoperand] at hdefault
    exact .append (.word (by decide)) (tame_defaultSql hdefault hsql)
  rw [modifiers, hcharset, hvirtual, hstored]
  -- modifier by modifier from the end; those that could be raw SQL are not there
  refine List.forall_mem_append.2 ⟨?_, tame_conditional (.word (by decide))⟩
  refine List.forall_mem_append.2 ⟨?_, tame_optional fun column _ =>
    .append (.word (by decide)) (Policy.tame_columnName hcase column)⟩
  refine List.forall_mem_append.2 ⟨?_, tame_optional fun content _ =>
    .append (.word (by decide)) (.quoteLiteral content)⟩
  refine List.forall_mem_append.2 ⟨?_, tame_conditional (.word (by decide))⟩
  refine List.forall_mem_append.2 ⟨?_, tame_optional hdefaults⟩
  refine List.forall_mem_append.2 ⟨?_, tame_optional fun number _ =>
    .append (.word (by decide)) (.integerText _)⟩
  refine List.forall_mem_append.2 ⟨?_, tame_nullability⟩
  refine List.forall_mem_append.2 ⟨?_, List.forall_mem_nil _⟩
  refine List.forall_mem_append.2 ⟨?_, List.forall_mem_nil _⟩
  refine List.forall_mem_append.2 ⟨?_, tame_optional fun name _ =>
    .append (.word (by decide)) (.quoteLiteral name)⟩
  refine List.forall_mem_append.2 ⟨?_, List.forall_mem_nil _⟩
  exact tame_currentModifiers

lemma tame_compile {policy : Policy} (hcase : policy.caseSensitive = true) (hraw : c.isRawFree = true)
    {column : ColumnSql} (h : c.compile policy = .ok column) : column.IsTame := by
  cases htype : c.sqlType with
  | error error =>
    rw [compile, htype] at h
    cases h
  | ok type =>
    rw [compile, htype] at h
    cases h
    exact ⟨Policy.tame_identifier hcase c.name, tame_sqlType htype, tame_modifiers hcase hraw⟩

end ColumnDefinition

lemma ColumnSql.IsTame.write {column : ColumnSql} (h : column.IsTame) (keep : Modifier → Bool) :
    Tame (column.write keep) := by
  refine .intercalate (.word (by decide)) (List.forall_mem_cons.2 ⟨h.name, List.forall_mem_cons.2 ⟨h.type, ?_⟩⟩)
  intro sql hsql
  obtain ⟨modifier, hmodifier, rfl⟩ := List.mem_map.1 hsql
  exact h.modifiers modifier (List.mem_filter.1 hmodifier).1

/-! ### steps of compiling -/

/-- Several items compile if each does, and to the results of each. -/
lemma Compiled.mapM_eq_ok_iff {α β : Type} {compile : α → Compiled β} {items : List α} {results : List β} :
    items.mapM compile = .ok results ↔ List.Forall₂ (fun item result => compile item = .ok result) items results := by
  induction items generalizing results with
  | nil =>
    rw [List.mapM_nil, List.forall₂_nil_left_iff]
    exact ⟨fun h => (Except.ok.inj h).symm, fun h => congrArg _ h.symm⟩
  | cons item items ih =>
    rw [List.mapM_cons, List.forall₂_cons_left_iff, Compiled.bind_eq_ok]
    constructor
    · rintro ⟨first, hfirst, h⟩
      obtain ⟨rest, hrest, h⟩ := Compiled.bind_eq_ok.1 h
      exact ⟨first, rest, hfirst, ih.1 hrest, (Except.ok.inj h).symm⟩
    · rintro ⟨first, rest, hfirst, hrest, rfl⟩
      exact ⟨first, hfirst, Compiled.bind_eq_ok.2 ⟨rest, ih.2 hrest, rfl⟩⟩

lemma Compiled.exists_mapM_eq_ok_iff {α β : Type} {compile : α → Compiled β} {items : List α} :
    (∃ results, items.mapM compile = .ok results) ↔ ∀ item ∈ items, ∃ result, compile item = .ok result := by
  simp only [mapM_eq_ok_iff]
  induction items with
  | nil => exact ⟨fun _ => List.forall_mem_nil _, fun _ => ⟨[], .nil⟩⟩
  | cons item items ih =>
    rw [List.forall_mem_cons, ← ih]
    constructor
    · rintro ⟨_, hall⟩
      obtain ⟨first, rest, hfirst, hrest, -⟩ := List.forall₂_cons_left_iff.1 hall
      exact ⟨⟨first, hfirst⟩, ⟨rest, hrest⟩⟩
    · rintro ⟨⟨first, hfirst⟩, ⟨rest, hrest⟩⟩
      exact ⟨first :: rest, .cons hfirst hrest⟩

lemma exists_of_mapM_eq_ok {α β : Type} {compile : α → Compiled β} {items : List α} {results : List β}
    (h : items.mapM compile = .ok results) : ∀ result ∈ results, ∃ item ∈ items, compile item = .ok result := by
  replace h := Compiled.mapM_eq_ok_iff.1 h
  induction h with
  | nil => exact List.forall_mem_nil _
  | cons hcompile _ ih =>
    refine List.forall_mem_cons.2 ⟨⟨_, List.mem_cons_self, hcompile⟩, fun result hresult => ?_⟩
    obtain ⟨other, hmem, hother⟩ := ih result hresult
    exact ⟨other, List.mem_cons_of_mem _ hmem, hother⟩

lemma SchemaDialect.exists_parts_of_commands {d : SchemaDialect} {b : Blueprint} {commands : List Command}
    {statements : List String} (h : d.commands b commands = .ok statements) :
    ∃ parts : List (Command × List String), parts.map Prod.fst = commands ∧
      (∀ part ∈ parts, d.command b part.1 = .ok part.2) ∧ statements = parts.flatMap Prod.snd := by
  induction commands generalizing statements with
  | nil =>
    cases h
    exact ⟨[], rfl, List.forall_mem_nil _, rfl⟩
  | cons first rest ih =>
    obtain ⟨own, hown, h⟩ := Compiled.bind_eq_ok.1 h
    obtain ⟨others, hothers, h⟩ := Compiled.bind_eq_ok.1 h
    obtain rfl := Except.ok.inj h
    obtain ⟨parts, hcommands, hparts, rfl⟩ := ih hothers
    refine ⟨(first, own) :: parts, ?_, List.forall_mem_cons.2 ⟨hown, hparts⟩, rfl⟩
    rw [List.map_cons, hcommands]

/-! ### statements -/

/-- A text without markers, in the code of which the words `add constraint` stand or not. -/
structure Tells (adds : Bool) (sql : String) : Prop where
  clean : Clean sql
  adds_eq : DeferredStatement.isConstraint (codeText sql) = adds

lemma Tame.tells {sql : String} (h : Tame sql) : Tells false sql := ⟨h.clean, h.isConstraint_codeText⟩

namespace SchemaDialect

variable {d : SchemaDialect} {b : Blueprint} (hcase : d.policy.caseSensitive = true)

include hcase

lemma tame_alter {action : String} (h : Tame action) : Tame (d.alter b action) := by
  have htable : Tame ("alter table " ++ d.tableOf b) := .append (.word (by decide)) (Policy.tame_table hcase b.table)
  exact (htable.append (.word (by decide))).append h

lemma tells_alter {action : String} (h : Tame action) : Tells false (d.alter b action) := (tame_alter hcase h).tells

lemma tells_alter_identifier {words : String} (h : Tame words) (name : String) :
    Tells false (d.alter b (words ++ d.policy.identifier name)) :=
  tells_alter hcase (h.append (Policy.tame_identifier hcase name))

lemma tells_addConstraint {rest : String} (h : Tame rest) : Tells true (d.alter b ("add constraint " ++ rest)) := by
  have htable : Tame ("alter table " ++ d.tableOf b) := .append (.word (by decide)) (Policy.tame_table hcase b.table)
  have hbefore : Clean ("alter table " ++ d.tableOf b ++ " ") := (htable.append (.word (by decide))).clean
  have hwords : Clean "add constraint " := clean_of_isCalm (by decide)
  exact ⟨hbefore.append (hwords.append h.clean), isConstraint_codeText_append hbefore⟩

/-! ### constraints -/

lemma tells_addKey {kind : KeyKind} {key : Key} (halgorithm : key.algorithm = none) {sql : String}
    (h : d.addKey b kind key = .ok sql) : Tells true sql := by
  obtain ⟨-, -, h⟩ := Compiled.bind_eq_ok.1 h
  split_ifs at h with hempty
  · cases h
  · rw [halgorithm] at h
    obtain rfl := Except.ok.inj h
    have hkind : Tame (keyType kind) := by
      cases kind <;> exact .word (by decide)
    have hcolumns : Tame ("" ++ (" (" ++ (d.policy.columnNames key.columns ++ ")"))) := by
      refine .append (.word (by decide)) (.append (.word (by decide)) ?_)
      exact .append (Policy.tame_columnNames hcase key.columns) (.word (by decide))
    simp only [Option.map_none, Option.getD_none, String.append_assoc]
    refine tells_addConstraint hcase (.append (Policy.tame_identifier hcase _) ?_)
    exact .append (.word (by decide)) (hkind.append hcolumns)

omit hcase in
lemma tame_actionClause {event : String} (hevent : event ∈ ["delete", "update"]) {said : Option String}
    {sql : String} (h : actionClause event said = .ok sql) : Tame sql := by
  cases said with
  | none =>
    cases h
    exact .word (by decide)
  | some text =>
    have hactions : ∀ word ∈ actions, IsWord word := by decide
    have hevents : ∀ word ∈ ["delete", "update"], IsWord word := by decide
    simp only [actionClause] at h
    split_ifs at h with hcontains
    obtain rfl := Except.ok.inj h
    have hword : Tame (Text.lower (Text.trim text)) := .word (hactions _ (List.contains_iff_mem.1 hcontains))
    have hevent : Tame (" on " ++ event) := .append (.word (by decide)) (.word (hevents event hevent))
    exact (hevent.append (.word (by decide))).append hword

omit hcase in
lemma alter_append (action more : String) : d.alter b action ++ more = d.alter b (action ++ more) := by
  unfold alter
  exact String.append_assoc

lemma tells_addForeign {key : ForeignKey} {sql : String} (h : d.addForeign b key = .ok sql) : Tells true sql := by
  unfold addForeign at h
  split_ifs at h with hincomplete
  · cases h
  · obtain ⟨deletion, hdeletion, h⟩ := Compiled.bind_eq_ok.1 h
    obtain ⟨update, hupdate, h⟩ := Compiled.bind_eq_ok.1 h
    obtain rfl := Except.ok.inj h
    have hreferences : Tame (" (" ++ (d.policy.columnNames key.references ++ (")" ++ (deletion ++ update)))) := by
      refine .append (.word (by decide)) (.append (Policy.tame_columnNames hcase key.references) ?_)
      refine .append (.word (by decide)) (.append ?_ ?_)
      · exact tame_actionClause (by decide) hdeletion
      · exact tame_actionClause (by decide) hupdate
    simp only [alter_append, String.append_assoc]
    refine tells_addConstraint hcase (.append (Policy.tame_identifier hcase _) (.append (.word (by decide)) ?_))
    refine .append (Policy.tame_columnNames hcase key.columns) (.append (.word (by decide)) ?_)
    exact .append (Policy.tame_table hcase key.table) hreferences

/-! ### tables and columns -/

omit hcase in
lemma isRawFree_of_mem_columns (hraw : b.isRawFree = true) : ∀ column ∈ b.columns, column.isRawFree = true := by
  simp only [Blueprint.isRawFree, Bool.and_eq_true] at hraw
  exact List.all_eq_true.1 hraw.1.2

lemma isTame_of_mem_mapM (hraw : b.isRawFree = true) {chosen : ColumnDefinition → Bool} {columns : List ColumnSql}
    (h : (b.columns.filter chosen).mapM (fun column => column.compile d.policy) = .ok columns) :
    ∀ column ∈ columns, column.IsTame := by
  intro column hcolumn
  obtain ⟨definition, hmem, hcompile⟩ := exists_of_mapM_eq_ok h column hcolumn
  have hdefinition : definition.isRawFree = true := isRawFree_of_mem_columns hraw definition (List.mem_filter.1 hmem).1
  exact ColumnDefinition.tame_compile hcase hdefinition hcompile

/-- Creating a table tells of no constraint. -/
lemma tells_create (hdefaults : d.defaults.isRawFree = true) (hraw : b.isRawFree = true) {sql : String}
    (h : d.create b = .ok sql) : Tells false sql := by
  have hcreate : Tame (if b.temporary then "create temporary table " else "create table ") := by
    split_ifs <;> exact .word (by decide)
  have hcollation :
      Tame (suffix (fun name => " collate " ++ Text.quoteLiteral name) b.collation d.defaults.collation) := by
    unfold suffix
    cases b.collation.or d.defaults.collation with
    | none => exact .word (by decide)
    | some name => exact .append (.word (by decide)) (.quoteLiteral name)
  obtain ⟨columns, hcolumns, h⟩ := Compiled.bind_eq_ok.1 h
  have htame : ∀ column ∈ columns, column.IsTame := isTame_of_mem_mapM hcase hraw hcolumns
  simp only [TableDefaults.isRawFree, Blueprint.isRawFree, Bool.and_eq_true, Option.isNone_iff_eq_none] at hdefaults hraw
  have hcharset : suffix (" default character set " ++ ·) b.charset d.defaults.charset = "" := by
    rw [hdefaults.1, hraw.1.1.1]
    rfl
  have hengine : suffix (" engine = " ++ ·) b.engine d.defaults.engine = "" := by
    rw [hdefaults.2, hraw.1.1.2]
    rfl
  cases hempty : columns.isEmpty with
  | true =>
    rw [hempty] at h
    cases h
  | false =>
    rw [hempty] at h
    obtain rfl := Except.ok.inj h
    have htable : Tame ((if b.temporary then "create temporary table " else "create table ") ++ d.tableOf b ++ " (") :=
      (hcreate.append (Policy.tame_table hcase b.table)).append (.word (by decide))
    have hlist : Tame (Text.commaList (columns.map ColumnSql.definition)) :=
      .commaList fun column hcolumn => (htame column hcolumn).write _
    have hclose : Tame ")" := .word (by decide)
    rw [hcharset, hengine, String.append_empty, String.append_empty]
    exact (((htable.append hlist).append hclose).append hcollation).tells

lemma tells_addColumns (hraw : b.isRawFree = true) {statements : List String}
    (h : d.addColumns b = .ok statements) : ∀ sql ∈ statements, Tells false sql := by
  intro sql hsql
  obtain ⟨definition, hmem, hstatement⟩ := exists_of_mapM_eq_ok h sql hsql
  obtain ⟨column, hcolumn, hstatement⟩ := Compiled.bind_eq_ok.1 hstatement
  obtain rfl := Except.ok.inj hstatement
  have hdefinition : definition.isRawFree = true := isRawFree_of_mem_columns hraw definition (List.mem_filter.1 hmem).1
  have htame : column.IsTame := ColumnDefinition.tame_compile hcase hdefinition hcolumn
  exact tells_alter hcase (.append (.word (by decide)) (htame.write _))

/-- Changing columns tells of no constraint: neither the definitions, nor what is said about null, nor restarts. -/
lemma tells_changeColumns (hraw : b.isRawFree = true) {statements : List String}
    (h : d.changeColumns b = .ok statements) : ∀ sql ∈ statements, Tells false sql := by
  obtain ⟨columns, hcolumns, h⟩ := Compiled.bind_eq_ok.1 h
  obtain rfl := Except.ok.inj h
  have htame : ∀ column ∈ columns, column.IsTame := isTame_of_mem_mapM hcase hraw hcolumns
  intro sql hsql
  rcases List.mem_append.1 hsql with hsql | hsql
  · rcases List.mem_append.1 hsql with hsql | hsql
    · obtain ⟨column, hcolumn, rfl⟩ := List.mem_map.1 hsql
      exact tells_alter hcase (.append (.word (by decide)) ((htame column hcolumn).write _))
    · obtain ⟨column, hcolumn, hsaid⟩ := List.mem_filterMap.1 hsql
      obtain ⟨nullable, -, rfl⟩ := Option.map_eq_some_iff.1 hsaid
      have hnull : Tame (if nullable then " drop not null" else " set not null") := by
        split_ifs <;> exact .word (by decide)
      exact tells_alter hcase (.append (.append (.word (by decide)) (htame column hcolumn).name) hnull)
  · obtain ⟨definition, -, hrestart⟩ := List.mem_filterMap.1 hsql
    unfold restart at hrestart
    split_ifs at hrestart
    obtain ⟨start, -, rfl⟩ := Option.map_eq_some_iff.1 hrestart
    exact tells_alter hcase (.append (.word (by decide)) (.integerText _))

/-! ### commands -/

/-- **The statements of a command have no markers, and the words `add constraint` stand in their code exactly if the
command adds a constraint.** -/
theorem tells_command (hdefaults : d.defaults.isRawFree = true) (hraw : b.isRawFree = true) {command : Command}
    (hcommand : command.isRawFree = true) {statements : List String} (h : d.command b command = .ok statements) :
    ∀ sql ∈ statements, Tells command.addsConstraint sql := by
  cases command with
  | create =>
    obtain ⟨sql, hsql, h⟩ := Compiled.bind_eq_ok.1 h
    obtain rfl := Except.ok.inj h
    exact List.forall_mem_singleton.2 (tells_create hcase hdefaults hraw hsql)
  | add => exact tells_addColumns hcase hraw h
  | change => exact tells_changeColumns hcase hraw h
  | dropColumns columns =>
    simp only [SchemaDialect.command] at h
    split_ifs at h
    obtain rfl := Except.ok.inj h
    have hdrop : ∀ column ∈ columns, Tame ("drop column " ++ d.policy.columnName column) := fun column _ =>
      .append (.word (by decide)) (Policy.tame_columnName hcase column)
    exact List.forall_mem_singleton.2 (tells_alter hcase (.commaList hdrop))
  | renameColumn old new =>
    obtain rfl := Except.ok.inj h
    have hold : Tame ("rename column " ++ d.policy.columnName old) :=
      .append (.word (by decide)) (Policy.tame_columnName hcase old)
    have hnew : Tame (d.policy.columnName new) := Policy.tame_columnName hcase new
    exact List.forall_mem_singleton.2 (tells_alter hcase ((hold.append (.word (by decide))).append hnew))
  | addKey kind key =>
    obtain ⟨sql, hsql, h⟩ := Compiled.bind_eq_ok.1 h
    obtain rfl := Except.ok.inj h
    exact List.forall_mem_singleton.2 (tells_addKey hcase (Option.isNone_iff_eq_none.1 hcommand) hsql)
  | addForeign key =>
    obtain ⟨sql, hsql, h⟩ := Compiled.bind_eq_ok.1 h
    obtain rfl := Except.ok.inj h
    exact List.forall_mem_singleton.2 (tells_addForeign hcase hsql)
  | dropPrimary =>
    obtain rfl := Except.ok.inj h
    exact List.forall_mem_singleton.2 (tells_alter hcase (.word (by decide)))
  | dropUnique name =>
    obtain rfl := Except.ok.inj h
    exact List.forall_mem_singleton.2 (tells_alter_identifier hcase (.word (by decide)) name)
  | dropIndex name =>
    obtain ⟨-, -, h⟩ := Compiled.bind_eq_ok.1 h
    obtain rfl := Except.ok.inj h
    exact List.forall_mem_singleton.2 (tells_alter_identifier hcase (.word (by decide)) name)
  | dropSpatial name =>
    obtain ⟨-, -, h⟩ := Compiled.bind_eq_ok.1 h
    obtain rfl := Except.ok.inj h
    exact List.forall_mem_singleton.2 (tells_alter_identifier hcase (.word (by decide)) name)
  | dropForeign name =>
    obtain rfl := Except.ok.inj h
    exact List.forall_mem_singleton.2 (tells_alter_identifier hcase (.word (by decide)) name)
  | renameIndex old new =>
    obtain ⟨-, -, h⟩ := Compiled.bind_eq_ok.1 h
    obtain rfl := Except.ok.inj h
    have hold : Tame ("rename index " ++ d.policy.identifier old) :=
      .append (.word (by decide)) (Policy.tame_identifier hcase old)
    exact List.forall_mem_singleton.2 (tells_alter_identifier hcase (hold.append (.word (by decide))) new)
  | drop =>
    obtain rfl := Except.ok.inj h
    have hdrop : Tame ("drop table " ++ d.tableOf b) := .append (.word (by decide)) (Policy.tame_table hcase b.table)
    exact List.forall_mem_singleton.2 hdrop.tells
  | dropIfExists =>
    obtain rfl := Except.ok.inj h
    have hdrop : Tame ("drop table if exists " ++ d.tableOf b) :=
      .append (.word (by decide)) (Policy.tame_table hcase b.table)
    exact List.forall_mem_singleton.2 hdrop.tells
  | rename name =>
    obtain rfl := Except.ok.inj h
    exact List.forall_mem_singleton.2 (tells_alter hcase (.append (.word (by decide)) (Policy.tame_table hcase name)))

end SchemaDialect

end WarehouseSql
