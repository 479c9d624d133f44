import WarehouseSql.Request
import WarehouseSql.Schema.Compile
import WarehouseSql.Statement.Basic
import WarehouseSql.Value.Moment
import WarehouseSql.Value.Uuid

/-!
Connections.  A connection joins a configuration and a raw connection; what changes over time is its session: whether
it pretends, whether it logs, the log, and what has been sent.  An action keeps the session even when it fails.
-/

namespace WarehouseSql

/-! ### bindings -/

/-- A value as a caller supplies it. -/
inductive Supplied where
  | value (v : Value)
  | moment (m : Moment)
  | uuid (u : Uuid)
deriving DecidableEq

/-- The value that is bound: moments and identifiers become text. -/
def Supplied.normalize : Supplied → Value
  | .value v => v
  | .moment m => .text m.text
  | .uuid u => .text u.text

/-- The values for the markers of a statement. -/
structure Bindings where
  positional : List Supplied := []
  named : List (String × Supplied) := []
deriving DecidableEq

namespace Bindings

/-- Positional values only. -/
def ofValues (values : List Value) : Bindings := { positional := values.map .value }

def isEmpty (b : Bindings) : Bool := b.positional.isEmpty && b.named.isEmpty

/-- All values as they are bound, positional ones first. -/
def values (b : Bindings) : List Value :=
  b.positional.map Supplied.normalize ++ b.named.map fun entry => entry.2.normalize

def normalized (b : Bindings) : Bindings :=
  { positional := b.positional.map fun supplied => .value supplied.normalize
    named := b.named.map fun entry => (entry.1, .value entry.2.normalize) }

end Bindings

/-- A value with its type: text that denotes a number is declared an integer. -/
def declare (v : Value) : Binding :=
  match v with
  | .text content => ⟨v, if isNumeral content then some .integer else none⟩
  | _ => ⟨v, none⟩

/-- Binds values to the positions from `start` on. -/
def bindPositional (start : Nat) :
    List Value → DeferredStatement → Except StatementError DeferredStatement
  | [], s => .ok s
  | v :: values, s => do bindPositional (start + 1) values (← s.bind start (declare v))

/-- Binds values to names. -/
def bindByName : List (String × Value) → DeferredStatement → Except StatementError DeferredStatement
  | [], s => .ok s
  | (name, v) :: values, s => do bindByName values (← s.bindNamed name (declare v))

def Bindings.bindTo (b : Bindings) (s : DeferredStatement) : Except StatementError DeferredStatement := do
  let s ← bindPositional 1 (b.positional.map Supplied.normalize) s
  bindByName (b.named.map fun entry => (entry.1, entry.2.normalize)) s

/-! ### sessions -/

/-- An entry of the query log; the literal is what was sent or would have been.  When it ran and for how long is left
out. -/
structure LoggedQuery where
  sql : String
  bindings : List Value
  literal : String
deriving DecidableEq

/-- The changing part of a connection; what was sent stands last text first. -/
structure Session where
  pretending : Bool := false
  logging : Bool := false
  log : List LoggedQuery := []
  sent : List Sent := []
deriving DecidableEq

/-- Why an action failed. -/
inductive ConnectionError where
  | grammar (error : GrammarError)
  | statement (error : StatementError)
  | missingRecord (sql : String)
deriving DecidableEq

def ConnectionError.kind : ConnectionError → String
  | .grammar error => error.kind
  | .statement error => error.kind
  | .missingRecord _ => "MissingRecord"

def ConnectionError.message : ConnectionError → String
  | .grammar error => error.message
  | .statement error => error.message
  | .missingRecord sql => "expected a row from: " ++ sql

/-- Something that is done on a session and may fail. -/
abbrev Action (α : Type) := ExceptT ConnectionError (StateM Session) α

def Action.ofCompiled {α : Type} : Compiled α → Action α
  | .ok a => pure a
  | .error error => throw (.grammar error)

def Action.ofStatement {α : Type} : Except StatementError α → Action α
  | .ok a => pure a
  | .error error => throw (.statement error)

/-- The outcome of an action, failed or not; the session goes on either way. -/
def Action.attempt {α : Type} (action : Action α) : Action (Except ConnectionError α) :=
  ExceptT.lift action.run

/-! ### connections -/

/-- A configuration and the raw connection that carries it. -/
structure Connection where
  config : ConnectionConfig
  raw : RawConnection

namespace Connection

def prepare (c : Connection) (sql : String) : DeferredStatement :=
  { sql, skipsConstraints := c.config.options.skipConstraints }

/-- Executes a statement and notes what was sent. -/
def execute (c : Connection) (statement : DeferredStatement) : Action DeferredStatement := do
  let session ← get
  let execution := statement.execute c.raw session.sent none
  set { session with sent := execution.sent.toList ++ session.sent }
  Action.ofStatement execution.result
  return execution.statement

/-- Runs a statement; pretending, it is worked out and logged but not executed, and there is no result. -/
def run (c : Connection) (sql : String) (bindings : Bindings) : Action (Option DeferredStatement) := do
  let bindings := bindings.normalized
  let statement ← Action.ofStatement (bindings.bindTo (c.prepare sql))
  let literal ← Action.ofStatement statement.literalSql
  let session ← get
  let result ← if session.pretending then pure none else some <$> c.execute statement
  if session.pretending || session.logging then
    modify fun session => { session with log := session.log ++ [⟨sql, bindings.values, literal⟩] }
  return result

/-! ### statements -/

def statement (c : Connection) (sql : String) (bindings : Bindings) : Action Unit := do
  let _ ← c.run sql bindings

/-- Runs a statement and counts the rows that it affected. -/
def affecting (c : Connection) (sql : String) (bindings : Bindings) : Action Nat := do
  return ((← c.run sql bindings).map DeferredStatement.rowsAffected).getD 0

/-- Runs a statement and fetches its rows. -/
def select (c : Connection) (sql : String) (bindings : Bindings) : Action (List Row) := do
  match ← c.run sql bindings with
  | none => return []
  | some statement => Action.ofStatement statement.fetchAll.1

def selectOne (c : Connection) (sql : String) (bindings : Bindings) : Action (Option Row) := do
  return (← c.select sql bindings).head?

def runFragment (c : Connection) (f : Fragment) : Action Unit := c.statement f.sql (.ofValues f.bindings)

/-- Runs a compiled statement and counts the rows that it affected. -/
def countFragment (c : Connection) (f : Fragment) : Action Nat := c.affecting f.sql (.ofValues f.bindings)

/-- Inserts a row and reads its identifier back; null while pretending. -/
def insertGetId (c : Connection) (q : Query) (values : RowValues) (sequence : Option String) :
    Action Value := do
  let d := c.config.queryDialect
  c.runFragment (← Action.ofCompiled (d.insert q [values]))
  let table ← Action.ofCompiled (d.target q)
  let lookup := c.config.options.idLookup
  let sql := lookup.query table sequence
  let row ← c.selectOne sql {}
  if (← get).pretending then return .null
  match row.bind fun row => lookup.extract? row sequence with
  | some id => return id
  | none => throw (.missingRecord sql)

def runAll (c : Connection) : List String → Action Unit
  | [] => pure ()
  | sql :: rest => do
    c.statement sql {}
    c.runAll rest

def runBlueprint (c : Connection) (b : Blueprint) : Action Unit := do
  c.runAll (← Action.ofCompiled (c.config.schemaDialect.statements b))

/-! ### pretending and logging -/

/-- Does some work with execution switched off; it is on afterwards, whatever comes of the work. -/
def whilePretending {α : Type} (work : Action α) : Action α := do
  modify fun session => { session with pretending := true }
  let outcome ← work.attempt
  modify fun session => { session with pretending := false }
  match outcome with
  | .ok a => return a
  | .error error => throw error

def setLogging (logging : Bool) : Action Unit := modify fun session => { session with logging }

def flushLog : Action Unit := modify fun session => { session with log := [] }

/-- The statement that makes quoted identifiers ignore their case. -/
def ignoreCaseStatement : String := "alter session set QUOTED_IDENTIFIERS_IGNORE_CASE = true"

/-- Sets a new session up. -/
def connect (c : Connection) : Action Unit :=
  if c.config.quotedIdentifiersIgnoreCase then c.statement ignoreCaseStatement {} else pure ()

end Connection

end WarehouseSql
