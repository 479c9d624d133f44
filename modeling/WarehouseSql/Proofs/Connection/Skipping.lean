import WarehouseSql.Proofs.Connection.Running
import WarehouseSql.Proofs.Schema.Statements
import WarehouseSql.Proofs.Statement.Resolution

/-!
Which statements a connection skips.  A text without markers is skipped if it holds the words `add constraint`, **in its
code or hidden from it** in quotes, comments or `$$` blocks.  Carrying out a blueprint without raw SQL skips the
statements of all commands that add a constraint, and of the other ones exactly those that hide the words
(`skips_exact`); so a table is not created if the words stand in a comment on a column (`exists_creation_skipped`).
Without the option to skip, **all statements of the blueprint are sent as they are** (`sends_verbatim`).
-/

namespace WarehouseSql

open WarehouseSql.Action (on on_bind_of_ok)
open Template (Hidden codeText)

/-! ### the statements of a blueprint, command by command -/

/-- The commands of a blueprint, each with the statements that it compiles to. -/
structure SchemaDialect.Compiles (d : SchemaDialect) (b : Blueprint) (parts : List (Command × List String)) : Prop where
  commands : parts.map Prod.fst = b.allCommands
  compiled : ∀ part ∈ parts, d.command b part.1 = .ok part.2

namespace SchemaDialect

variable {d : SchemaDialect} {b : Blueprint} {parts : List (Command × List String)}

lemma exists_compiles {statements : List String} (h : d.statements b = .ok statements) :
    ∃ parts, d.Compiles b parts ∧ statements = parts.flatMap Prod.snd := by
  obtain ⟨parts, hcommands, hparts, hstatements⟩ := exists_parts_of_commands h
  exact ⟨parts, ⟨hcommands, hparts⟩, hstatements⟩

/-- All statements of a blueprint without raw SQL read as what their commands do. -/
lemma Compiles.tells (h : d.Compiles b parts) (hcase : d.policy.caseSensitive = true)
    (hdefaults : d.defaults.isRawFree = true) (hraw : b.isRawFree = true) :
    ∀ part ∈ parts, ∀ sql ∈ part.2, Tells part.1.addsConstraint sql := by
  intro part hpart
  have hmem : part.1 ∈ b.allCommands := by
    rw [← h.commands]
    exact List.mem_map_of_mem hpart
  exact tells_command hcase hdefaults hraw (isRawFree_of_mem_allCommands hraw _ hmem) (h.compiled part hpart)

end SchemaDialect

/-! ### texts without values -/

namespace DeferredStatement

/-- **A text without markers is skipped if it holds the words that add a constraint**, be it in its code or hidden from
it. -/
lemma resolve_eq_ok_skip_iff_codeText {s : DeferredStatement} {text : String} :
    s.resolve = .ok (.skip text) ↔
      s.template.hasMarkers = false ∧ s.skipsConstraints = true ∧ text = s.sql ∧
        (isConstraint (codeText s.sql) = true ∨ Hidden s.sql) := by
  rw [resolve_eq_ok_skip_iff, isConstraint_iff_codeText]
  constructor
  · rintro ⟨hmarkers, ⟨hskips, hwords⟩, htext⟩
    exact ⟨hmarkers, hskips, htext, hwords⟩
  · rintro ⟨hmarkers, hskips, htext, hwords⟩
    exact ⟨hmarkers, ⟨hskips, hwords⟩, htext⟩

end DeferredStatement

namespace Connection

variable {c : Connection} {sql : String} {statements : List String} {s : Session}

/-- Whether the connection skips a text without markers. -/
def skips (c : Connection) (sql : String) : Bool :=
  c.config.options.skipConstraints && DeferredStatement.isConstraint sql

/-- The session after texts without values: those that are not skipped have been sent, unless the session pretends. -/
def after (c : Connection) (s : Session) (statements : List String) : Session :=
  { s with
    sent :=
      (if s.pretending then [] else (statements.filter (!c.skips ·)).map fun sql => ⟨.direct, sql⟩).reverse ++ s.sent
    log := s.log ++ if s.pretending || s.logging then statements.map fun sql => ⟨sql, [], sql⟩ else [] }

lemma after_nil : c.after s [] = s := by
  simp [after]

lemma after_cons : c.after s (sql :: statements) = c.after (c.after s [sql]) statements := by
  cases hpretending : s.pretending <;> cases hlogging : s.logging <;> cases hskips : c.skips sql <;>
    simp [after, hpretending, hlogging, hskips]

lemma resolve_prepare (h : (Template.parse sql).hasMarkers = false) :
    (c.prepare sql).resolve = .ok (if c.skips sql then .skip sql else .direct sql) := by
  have hskips : c.skips sql = true ↔
      (c.prepare sql).skipsConstraints = true ∧ DeferredStatement.isConstraint (c.prepare sql).sql = true := by
    rw [skips, Bool.and_eq_true, prepare]
  split_ifs with hskip
  · exact DeferredStatement.resolve_eq_ok_skip_iff.2 ⟨h, hskips.1 hskip, rfl⟩
  · exact DeferredStatement.resolve_eq_ok_direct_iff.2 ⟨h, fun hboth => hskip (hskips.2 hboth), ⟨rfl, rfl⟩, rfl⟩

lemma on_statement (hraw : c.raw.Succeeds) (h : (Template.parse sql).hasMarkers = false) :
    on (c.statement sql {}) s = (.ok (), c.after s [sql]) := by
  have hresolve : (c.prepare sql).resolve = .ok (if c.skips sql then .skip sql else .direct sql) := resolve_prepare h
  have hbound : c.bound sql {} = .ok (c.prepare sql) := rfl
  cases hpretending : s.pretending with
  | true =>
    have hentry : c.entry sql {} = .ok ⟨sql, [], sql⟩ := by
      rw [entry, hbound]
      simp only [hresolve]
      split_ifs <;> rfl
    refine (on_bind_of_ok (on_run_of_pretending hentry hpretending)).trans ?_
    simp [after, hpretending]
  | false =>
    obtain ⟨executed, -, hrun⟩ := on_run_of_succeeds hraw hbound hresolve hpretending
    refine (on_bind_of_ok hrun).trans ?_
    have hvalues : ({} : Bindings).normalized.values = [] := rfl
    cases hskips : c.skips sql <;> simp [after, hpretending, hskips, hvalues, Resolution.sent?, Resolution.sql]

lemma on_runAll (hraw : c.raw.Succeeds) (h : ∀ sql ∈ statements, (Template.parse sql).hasMarkers = false) :
    on (c.runAll statements) s = (.ok (), c.after s statements) := by
  induction statements generalizing s with
  | nil => rw [after_nil]; rfl
  | cons sql statements ih =>
    obtain ⟨hsql, hrest⟩ := List.forall_mem_cons.1 h
    rw [after_cons]
    exact (on_bind_of_ok (on_statement hraw hsql)).trans (ih hrest)

/-! ### blueprints -/

/-- If all statements of the commands that add a constraint are skipped, what is left are the statements of the other
commands exactly if none of these is skipped. -/
lemma filter_eq_iff {parts : List (Command × List String)} {skips : String → Bool}
    (h : ∀ part ∈ parts, part.1.addsConstraint = true → ∀ sql ∈ part.2, skips sql = true) :
    (parts.flatMap Prod.snd).filter (!skips ·) =
        (parts.filter fun part => !part.1.addsConstraint).flatMap Prod.snd ↔
      ∀ part ∈ parts, part.1.addsConstraint = false → ∀ sql ∈ part.2, skips sql = false := by
  -- of the commands that add a constraint nothing is left in any case
  have hfilter : (parts.flatMap Prod.snd).filter (!skips ·) =
      ((parts.filter fun part => !part.1.addsConstraint).flatMap Prod.snd).filter (!skips ·) := by
    induction parts with
    | nil => rfl
    | cons part parts ih =>
      obtain ⟨hpart, hparts⟩ := List.forall_mem_cons.1 h
      rw [List.flatMap_cons, List.filter_append, ih hparts]
      cases hadds : part.1.addsConstraint with
      | false => rw [List.filter_cons_of_pos (by rw [hadds]; rfl), List.flatMap_cons, List.filter_append]
      | true =>
        have hnone : part.2.filter (!skips ·) = [] :=
          List.filter_eq_nil_iff.2 fun sql hsql => by rw [hpart hadds sql hsql]; decide
        rw [List.filter_cons_of_neg (by rw [hadds]; decide), hnone, List.nil_append]
  rw [hfilter, List.filter_eq_self]
  constructor
  · intro hkept part hpart hadds sql hsql
    have hmem : part ∈ parts.filter fun part => !part.1.addsConstraint := List.mem_filter.2 ⟨hpart, by rw [hadds]; rfl⟩
    have hkeeps := hkept sql (List.mem_flatMap.2 ⟨part, hmem, hsql⟩)
    rwa [Bool.not_eq_true'] at hkeeps
  · intro hkept sql hmem
    obtain ⟨part, hpart, hsql⟩ := List.mem_flatMap.1 hmem
    obtain ⟨hpart, hadds⟩ := List.mem_filter.1 hpart
    rw [Bool.not_eq_true'] at hadds
    rw [hkept part hpart hadds sql hsql]
    rfl

/-- **What is skipped, exactly.**  A text without markers is skipped if it holds the words that add a constraint, in its
code or hidden from it.  A blueprint without raw SQL runs to its end; it skips the statements of all commands that add a
constraint, and of the others those that hide the words, so that the statements of these commands reach the raw
connection in order exactly if none of them hides the words. -/
theorem skips_exact (c : Connection) (t : DeferredStatement) (b : Blueprint) :
    (∀ text, t.resolve = .ok (.skip text) ↔
      t.template.hasMarkers = false ∧ t.skipsConstraints = true ∧ text = t.sql ∧
        (DeferredStatement.isConstraint (codeText t.sql) = true ∨ Hidden t.sql)) ∧
    ∀ statements, c.config.caseSensitive = true → c.config.options.skipConstraints = true → c.raw.Succeeds →
      b.isRawFree = true → c.config.tableDefaults.isRawFree = true →
      c.config.schemaDialect.statements b = .ok statements →
      (∀ s, on (c.runBlueprint b) s = (.ok (), c.after s statements)) ∧
      ∃ parts, c.config.schemaDialect.Compiles b parts ∧ statements = parts.flatMap Prod.snd ∧
        (∀ part ∈ parts, ∀ sql ∈ part.2, c.skips sql = true ↔ part.1.addsConstraint = true ∨ Hidden sql) ∧
        (statements.filter (!c.skips ·) = (parts.filter fun part => !part.1.addsConstraint).flatMap Prod.snd ↔
          ∀ part ∈ parts, part.1.addsConstraint = false → ∀ sql ∈ part.2, ¬ Hidden sql) := by
  refine ⟨fun text => DeferredStatement.resolve_eq_ok_skip_iff_codeText, ?_⟩
  intro statements hcase hskip hraw hb hdefaults hstatements
  obtain ⟨parts, hcompiles, rfl⟩ := SchemaDialect.exists_compiles hstatements
  have htells : ∀ part ∈ parts, ∀ sql ∈ part.2, Tells part.1.addsConstraint sql := hcompiles.tells hcase hdefaults hb
  have hskips : ∀ part ∈ parts, ∀ sql ∈ part.2, c.skips sql = true ↔ part.1.addsConstraint = true ∨ Hidden sql := by
    intro part hpart sql hsql
    rw [skips, hskip, Bool.true_and, isConstraint_iff_codeText, (htells part hpart sql hsql).adds_eq]
  have hclean : ∀ sql ∈ parts.flatMap Prod.snd, (Template.parse sql).hasMarkers = false := by
    intro sql hsql
    obtain ⟨part, hpart, hsql⟩ := List.mem_flatMap.1 hsql
    exact (htells part hpart sql hsql).clean.hasMarkers
  refine ⟨fun s => ?_, parts, hcompiles, rfl, hskips, ?_⟩
  · have hcompiled : on (Action.ofCompiled (c.config.schemaDialect.statements b)) s =
        (.ok (parts.flatMap Prod.snd), s) := by
      rw [Action.on_ofCompiled, hstatements]
      rfl
    exact (on_bind_of_ok hcompiled).trans (on_runAll hraw hclean)
  · rw [filter_eq_iff fun part hpart hadds sql hsql => (hskips part hpart sql hsql).2 (.inl hadds)]
    constructor
    · intro hkept part hpart hadds sql hsql hhidden
      have hskipped := (hskips part hpart sql hsql).2 (.inr hhidden)
      rw [hkept part hpart hadds sql hsql] at hskipped
      cases hskipped
    · intro hkept part hpart hadds sql hsql
      rw [Bool.eq_false_iff]
      intro hskipped
      rcases (hskips part hpart sql hsql).1 hskipped with hadds' | hhidden
      · rw [hadds] at hadds'
        cases hadds'
      · exact hkept part hpart hadds sql hsql hhidden

def caseKeeping : Connection := ⟨{ caseSensitive := true }, .willing⟩

/-- A table with a comment, a primary key and a foreign key. -/
def guests : Blueprint :=
  { table := "guest"
    columns := [{ name := "id", type := .integer, comment := some "it's", primary := true }]
    commands := [.create, .addForeign { name := some "f", columns := ["id"], table := "room", references := ["id"] }] }

theorem skips_exact_guests :
    on (caseKeeping.runBlueprint guests) {} =
      (.ok (), { sent := [⟨.direct, "create table \"guest\" (\"id\" int not null comment 'it''s')"⟩] }) := by
  have hstatements : caseKeeping.config.schemaDialect.statements guests = .ok [
      "create table \"guest\" (\"id\" int not null comment 'it''s')",
      "alter table \"guest\" add constraint \"f\" foreign key (\"id\") references \"room\" (\"id\")",
      "alter table \"guest\" add constraint \"guest_id_primary\" primary key (\"id\")"] := by
    decide +kernel
  have hexact := (skips_exact caseKeeping (caseKeeping.prepare "") guests).2 _ rfl rfl RawConnection.succeeds_willing
    (by decide) (by decide) hstatements
  rw [hexact.1 {}]
  decide +kernel

/-- A table with a comment that holds the words. -/
def noted : Blueprint :=
  { table := "t", columns := [{ name := "a", type := .text, comment := some "add constraint" }], commands := [.create] }

/-- A table is not created, and a query is not run, if they hold the words in quotes. -/
theorem exists_creation_skipped :
    (noted.isRawFree = true ∧ noted.allCommands = [.create] ∧ on (caseKeeping.runBlueprint noted) {} = (.ok (), {})) ∧
      Hidden "select 'add constraint'" ∧
      (caseKeeping.prepare "select 'add constraint'").resolve = .ok (.skip "select 'add constraint'") := by
  decide +kernel

/-! ### blueprints of which nothing is skipped -/

/-- A connection without the option to skip leaves nothing out. -/
lemma after_of_not_skipping (hskip : c.config.options.skipConstraints = false) :
    c.after s statements = { s with
      sent := (if s.pretending then [] else statements.map fun sql => ⟨.direct, sql⟩).reverse ++ s.sent
      log := s.log ++ if s.pretending || s.logging then statements.map fun sql => ⟨sql, [], sql⟩ else [] } := by
  have hkept : statements.filter (!c.skips ·) = statements :=
    List.filter_eq_self.2 fun sql _ => by rw [skips, hskip]; rfl
  rw [after, hkept]

/-- **The statements of a blueprint are no templates.**  Without raw SQL they have no markers, whatever names, comments,
defaults and values are in them; so a connection that skips nothing sends all of them directly, as they are and in
order, unless it pretends and sends nothing at all. -/
theorem sends_verbatim {d : SchemaDialect} {b : Blueprint} (hcase : d.policy.caseSensitive = true)
    (hdefaults : d.defaults.isRawFree = true) (hb : b.isRawFree = true) (h : d.statements b = .ok statements) :
    (∀ sql ∈ statements, (Template.parse sql).hasMarkers = false) ∧
    ∀ c : Connection, c.config.schemaDialect = d → c.config.options.skipConstraints = false → c.raw.Succeeds →
      ∀ s, on (c.runBlueprint b) s = (.ok (), { s with
        sent := (if s.pretending then [] else statements.map fun sql => ⟨.direct, sql⟩).reverse ++ s.sent
        log := s.log ++ if s.pretending || s.logging then statements.map fun sql => ⟨sql, [], sql⟩ else [] }) := by
  obtain ⟨parts, hcompiles, rfl⟩ := SchemaDialect.exists_compiles h
  have hclean : ∀ sql ∈ parts.flatMap Prod.snd, (Template.parse sql).hasMarkers = false := by
    intro sql hsql
    obtain ⟨part, hpart, hsql⟩ := List.mem_flatMap.1 hsql
    exact (hcompiles.tells hcase hdefaults hb part hpart sql hsql).clean.hasMarkers
  refine ⟨hclean, ?_⟩
  rintro c rfl hskip hraw s
  have hcompiled : on (Action.ofCompiled (c.config.schemaDialect.statements b)) s =
      (.ok (parts.flatMap Prod.snd), s) := by
    rw [Action.on_ofCompiled, h]
    rfl
  rw [← after_of_not_skipping hskip]
  exact (on_bind_of_ok hcompiled).trans (on_runAll hraw hclean)

/-- A table with marks of every kind in its names and texts. -/
def questions : Blueprint :=
  { table := "who?"
    columns := [
      { name := "say \"hi\" -- :x", type := .string, comment := some "it's :a ? /* $$ \\"
        default := some (.value (.text "?:b'")) },
      { name := "kind", type := .enum, allowed := ["'", "a?", ":c"], index := true }]
    commands := [.create, .renameColumn "?" ":d", .rename "$$ as --"] }

/-- A case-keeping connection with a prefix that skips nothing. -/
def verbatim : Connection :=
  ⟨{ caseSensitive := true, tablePrefix := "?_", options := { skipConstraints := false } }, .willing⟩

theorem sends_verbatim_questions :
    on (verbatim.runBlueprint questions) {} = (.ok (), { sent := [
      ⟨.direct, "alter table \"?_who?\" add constraint \"?_who?_kind_index\" index (\"kind\")"⟩,
      ⟨.direct, "alter table \"?_who?\" rename to \"?_$$\" as \"?_--\""⟩,
      ⟨.direct, "alter table \"?_who?\" rename column \"?\" to \":d\""⟩,
      ⟨.direct, "create table \"?_who?\" (\"say \"\"hi\"\" -- :x\" varchar(255) not null default '?:b''' " ++
        "comment 'it''s :a ? /* $$ \\\\', \"kind\" enum('''', 'a?', ':c') not null)"⟩] }) := by
  have hstatements : verbatim.config.schemaDialect.statements questions = .ok [
      "create table \"?_who?\" (\"say \"\"hi\"\" -- :x\" varchar(255) not null default '?:b''' " ++
        "comment 'it''s :a ? /* $$ \\\\', \"kind\" enum('''', 'a?', ':c') not null)",
      "alter table \"?_who?\" rename column \"?\" to \":d\"",
      "alter table \"?_who?\" rename to \"?_$$\" as \"?_--\"",
      "alter table \"?_who?\" add constraint \"?_who?_kind_index\" index (\"kind\")"] := by
    decide +kernel
  have hverbatim := sends_verbatim (d := verbatim.config.schemaDialect) rfl (by decide) (by decide) hstatements
  exact hverbatim.2 verbatim rfl rfl RawConnection.succeeds_willing {}

end Connection

end WarehouseSql
