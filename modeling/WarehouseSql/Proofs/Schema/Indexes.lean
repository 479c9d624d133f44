import WarehouseSql.Proofs.Query.Locks
import WarehouseSql.Schema.Compile

/-!
Plain and spatial indexes, and what a strict dialect makes of them.  **A strict dialect compiles a blueprint as the
lenient one does, and refuses it if it adds, drops or renames an index** (`SchemaDialect.refuses_statements`).
Together with the locks of queries this is all that the two dialects differ in
(`ConnectionConfig.strict_only_refuses`).
-/

namespace WarehouseSql

def SchemaDialect.lenient (d : SchemaDialect) : SchemaDialect := { d with strictness := .lenient }

/-! ### indexes -/

/-- Whether a command adds, drops or renames a plain or a spatial index. -/
def Command.isIndex : Command → Bool
  | .addKey .index _ => true
  | .addKey .spatial _ => true
  | .dropIndex _ => true
  | .dropSpatial _ => true
  | .renameIndex _ _ => true
  | _ => false

/-- Whether a blueprint has commands for indexes or a column that asks for one. -/
def Blueprint.hasIndexes (b : Blueprint) : Bool := b.commands.any Command.isIndex || b.columns.any (·.index)

namespace Blueprint

lemma any_isIndex_impliedKeys (column : ColumnDefinition) :
    (impliedKeys column).any Command.isIndex = column.index := by
  simp only [impliedKeys]
  cases column.primary <;> cases column.unique <;> cases column.index <;> rfl

lemma any_isIndex_allCommands (b : Blueprint) : b.allCommands.any Command.isIndex = b.hasIndexes := by
  have hchange : (if b.changedColumns.isEmpty then [] else [Command.change]).any Command.isIndex = false := by
    split_ifs <;> rfl
  have hadd : (if b.creates || b.addedColumns.isEmpty then [] else [Command.add]).any Command.isIndex = false := by
    split_ifs <;> rfl
  simp only [allCommands, hasIndexes, List.any_append, hchange, hadd, List.any_flatMap, any_isIndex_impliedKeys,
    Bool.false_or]

end Blueprint

/-! ### compiling -/

namespace SchemaDialect

open Compiled (Refuses)

variable (d : SchemaDialect) (b : Blueprint)

lemma refuses_lenientOnly (construct : String) :
    Refuses (d.strictness.refuses true) (d.lenientOnly construct) (d.lenient.lenientOnly construct) := by
  obtain ⟨⟨policy, strictness⟩, defaults⟩ := d
  cases strictness with
  | strict => exact ⟨_, rfl, .inr rfl⟩
  | lenient => rfl

lemma refuses_command (c : Command) :
    Refuses (d.strictness.refuses c.isIndex) (d.command b c) (d.lenient.command b c) := by
  cases c with
  | addKey kind key =>
    have hkey : Refuses (d.strictness.refuses (Command.addKey kind key).isIndex) (d.addKey b kind key)
        (d.lenient.addKey b kind key) := by
      cases kind with
      | primary => rfl
      | unique => rfl
      | index => exact (d.refuses_lenientOnly "index").andThen fun _ => rfl
      | spatial => exact (d.refuses_lenientOnly "spatial index").andThen fun _ => rfl
    exact hkey.andThen fun sql => rfl
  | dropIndex name => exact (d.refuses_lenientOnly "drop index").andThen fun _ => rfl
  | dropSpatial name => exact (d.refuses_lenientOnly "drop index").andThen fun _ => rfl
  | renameIndex old new => exact (d.refuses_lenientOnly "rename index").andThen fun _ => rfl
  | _ => rfl

lemma refuses_commands (cs : List Command) :
    Refuses (d.strictness.refuses (cs.any Command.isIndex)) (d.commands b cs) (d.lenient.commands b cs) := by
  induction cs with
  | nil => rfl
  | cons c cs ih =>
    rw [List.any_cons, Strictness.refuses_or]
    exact (d.refuses_command b c).bind fun first => ih.andThen fun rest => rfl

/-- **A strict dialect refuses a blueprint exactly if there are indexes in it**, and otherwise both dialects compile
it alike. -/
theorem refuses_statements :
    Refuses (d.strictness.refuses b.hasIndexes) (d.statements b) (d.lenient.statements b) := by
  rw [← b.any_isIndex_allCommands]
  exact d.refuses_commands b b.allCommands

end SchemaDialect

/-! ### strict and lenient dialects -/

/-- **The strict dialects only refuse more.**  What a strict dialect compiles, the lenient one compiles to the same
statements; where only the strict one fails, a construct is not supported; locks leave no trace in the lenient one.
A query compiles strictly if it compiles and there is no lock in it, a blueprint if it compiles and there is no index
in it. -/
theorem ConnectionConfig.strict_only_refuses (c : ConnectionConfig) :
    (∀ (request : Request) fragments, request.compile (c.withStrictness .strict) = .ok fragments →
      request.compile (c.withStrictness .lenient) = .ok fragments) ∧
    (∀ (request : Request) e fragments, request.compile (c.withStrictness .strict) = .error e →
      request.compile (c.withStrictness .lenient) = .ok fragments → e.isUnsupported = true) ∧
    (∀ request : Request,
      request.unlocked.compile (c.withStrictness .lenient) = request.compile (c.withStrictness .lenient)) ∧
    (∀ q : Query, q.unlocked.isLocked = false) ∧
    (∀ q fragment, (c.withStrictness .strict).queryDialect.select q = .ok fragment ↔
      (c.withStrictness .lenient).queryDialect.select q = .ok fragment ∧ q.isLocked = false) ∧
    (∀ b statements, (c.withStrictness .strict).schemaDialect.statements b = .ok statements ↔
      (c.withStrictness .lenient).schemaDialect.statements b = .ok statements ∧ b.hasIndexes = false) := by
  -- the lenient dialect refuses nothing, so it compiles a request as it does without its locks
  have hunlocked : ∀ request : Request,
      request.compile (c.withStrictness .lenient) = request.unlocked.compile (c.withStrictness .lenient) :=
    fun request => by
      have h := request.refuses_compile (c.withStrictness .lenient)
      rwa [show (c.withStrictness .lenient).options.queries = .lenient from rfl, Strictness.refuses_lenient] at h
  have hselect : ∀ q : Query, (c.withStrictness .lenient).queryDialect.select q =
      (c.withStrictness .lenient).queryDialect.select q.unlocked := fun q => by
    have h := (c.withStrictness .lenient).queryDialect.refuses_select q
    rwa [show (c.withStrictness .lenient).queryDialect.strictness = .lenient from rfl, Strictness.refuses_lenient] at h
  have hstrict : ∀ request : Request, Compiled.Refuses request.meetsLock
      (request.compile (c.withStrictness .strict)) (request.compile (c.withStrictness .lenient)) := fun request => by
    have h := request.refuses_compile (c.withStrictness .strict)
    rw [show (c.withStrictness .strict).options.queries = .strict from rfl, Strictness.refuses_strict] at h
    rw [hunlocked]
    exact h
  refine ⟨fun request fragments h => ((hstrict request).eq_ok h).2, fun request e fragments hx hy =>
    (hstrict request).isUnsupported hx hy, fun request => (hunlocked request).symm, Query.isLocked_unlocked,
    fun q fragment => ?_, fun b statements => ?_⟩
  · have h := (c.withStrictness .strict).queryDialect.refuses_select q
    rw [show (c.withStrictness .strict).queryDialect.strictness = .strict from rfl, Strictness.refuses_strict] at h
    rw [hselect]
    exact h.eq_ok_iff
  · have h := (c.withStrictness .strict).schemaDialect.refuses_statements b
    rw [show (c.withStrictness .strict).schemaDialect.strictness = .strict from rfl, Strictness.refuses_strict] at h
    exact h.eq_ok_iff

/-- The guests, and the hosts who have a room that is held. -/
def guestsAndHosts : Query :=
  { Query.empty with
    source := some (.name "guest")
    branches := [
      { query :=
          { Query.empty with
            source := some (.name "host")
            clauses := [⟨.and, .group [⟨.and, .existsRow { Query.empty with
              source := some (.name "room")
              lock := some .shared } false⟩]⟩] }
        keepAll := false }] }

def guestsAndHostsSql : String :=
  "select * from (select * from GUEST) union select * from "
    ++ "(select * from HOST where (exists (select * from ROOM)))"

/-- A table of guests with an index that is asked for by a column. -/
def indexedGuests : Blueprint :=
  { table := "guest", columns := [{ name := "age", type := .integer, index := true }], commands := [.create] }

theorem ConnectionConfig.strict_only_refuses_guests :
    (Request.select guestsAndHosts).compile (withStrictness {} .strict) = .error (.lockUnsupported .shared) ∧
      (Request.select guestsAndHosts).compile (withStrictness {} .lenient) = .ok [.text guestsAndHostsSql] ∧
      (GrammarError.lockUnsupported .shared).isUnsupported = true ∧
      (Request.select guestsAndHosts.unlocked).compile (withStrictness {} .strict) = .ok [.text guestsAndHostsSql] ∧
      (Request.select guestsAndHosts.unlocked).compile (withStrictness {} .lenient) = .ok [.text guestsAndHostsSql] ∧
      ∀ statements, (withStrictness {} .strict).schemaDialect.statements indexedGuests ≠ .ok statements := by
  have hstrict : (Request.select guestsAndHosts).compile (withStrictness {} .strict) =
      .error (.lockUnsupported .shared) := by decide +kernel
  have hlenient : (Request.select guestsAndHosts).compile (withStrictness {} .lenient) =
      .ok [.text guestsAndHostsSql] := by decide +kernel
  have hunlocked : (Request.select guestsAndHosts.unlocked).compile (withStrictness {} .strict) =
      .ok [.text guestsAndHostsSql] := by decide +kernel
  obtain ⟨hsame, hunsupported, -, -, -, hindexes⟩ := strict_only_refuses {}
  refine ⟨hstrict, hlenient, hunsupported _ _ _ hstrict hlenient, hunlocked, hsame _ _ hunlocked, ?_⟩
  intro statements hstatements
  have hnone : indexedGuests.hasIndexes = false := ((hindexes _ _).1 hstatements).2
  exact absurd hnone (by decide)

end WarehouseSql
