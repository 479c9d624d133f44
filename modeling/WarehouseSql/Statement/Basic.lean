import WarehouseSql.Statement.Wire
import WarehouseSql.Template.Inline
import WarehouseSql.Text.Pieces

/-!
Deferred statements.  Values are collected first and put into the text as literals before anything reaches the raw
connection; a statement is for single use.
-/

namespace WarehouseSql

/-- A value with the type it was declared with. -/
structure Binding where
  value : Value
  declared : Option BindType
deriving DecidableEq

def Binding.literal (b : Binding) : String := b.value.literal b.declared

/-- How far a statement has come. -/
inductive StatementState where
  | created
  | bound
  | delegated
  | skipped
deriving DecidableEq

def StatementState.isExecuted : StatementState → Bool
  | .created => false
  | .bound => false
  | .delegated => true
  | .skipped => true

def StatementState.name : StatementState → String
  | .created => "created"
  | .bound => "bound"
  | .delegated => "delegated"
  | .skipped => "skipped"

/-- What an execution would do. -/
inductive Resolution where
  | skip (sql : String)
  | direct (sql : String)
  | literal (sql : String)
deriving DecidableEq

def Resolution.sql : Resolution → String
  | .skip sql => sql
  | .direct sql => sql
  | .literal sql => sql

/-- A statement whose values are still being collected, or that has been executed. -/
structure DeferredStatement where
  sql : String
  skipsConstraints : Bool
  positional : List (Nat × Binding) := []
  named : List (String × Binding) := []
  state : StatementState := .created
  raw : Option RawStatement := none
  fetches : Nat := 0

namespace DeferredStatement

def template (s : DeferredStatement) : Template := Template.parse s.sql

/-! ### binding -/

/-- A value for a position, counted from one. -/
def bind (s : DeferredStatement) (position : Nat) (binding : Binding) :
    Except StatementError DeferredStatement :=
  if s.state.isExecuted then .error .alreadyExecuted
  else if position = 0 then .error (.invalidPosition 0)
  else .ok { s with positional := insertEntry position binding s.positional, state := .bound }

/-- A value for a name; colons in front of the name do not count. -/
def bindNamed (s : DeferredStatement) (name : String) (binding : Binding) :
    Except StatementError DeferredStatement :=
  if s.state.isExecuted then .error .alreadyExecuted
  else
    let bare := String.ofList (name.toList.dropWhile (· == ':'))
    .ok { s with named := insertEntry bare binding s.named, state := .bound }

/-- Values for the positions from `start` on. -/
def bindFrom (s : DeferredStatement) (start : Nat) : List Value → Except StatementError DeferredStatement
  | [] => .ok s
  | value :: values => do (← s.bind start ⟨value, none⟩).bindFrom (start + 1) values

/-- Values for the positions from one on. -/
def bindAll (s : DeferredStatement) (values : List Value) : Except StatementError DeferredStatement :=
  s.bindFrom 1 values

/-! ### resolving -/

/-- Whether a text adds a constraint. -/
def isConstraint (sql : String) : Bool :=
  Text.contains "add constraint".toList (Text.asciiLower sql).toList

/-- The literals of the positional markers: as many as markers, without gaps. -/
def positionalLiterals (s : DeferredStatement) (template : Template) : Except StatementError (List String) :=
  let expected := template.positionalCount
  let actual := s.positional.length
  if expected = 0 then
    if actual = 0 then .ok [] else .error (.bindingArity 0 actual)
  else
    match s.named with
    | (name, _) :: _ => .error (.unusedNamed name)
    | [] =>
      if actual = expected ∧ s.positional.map Prod.fst = List.range' 1 actual then
        .ok (s.positional.map fun entry => entry.2.literal)
      else .error (.bindingArity expected actual)

/-- The first name of some that has no value. -/
def missingName? (s : DeferredStatement) (names : List String) : Option String :=
  names.find? fun name => (s.named.lookup name).isNone

/-- The first name with a value that is not among some. -/
def unusedName? (s : DeferredStatement) (names : List String) : Option String :=
  (s.named.map Prod.fst).find? fun name => !names.contains name

/-- The literals of the named markers: each name has one, and no other name has. -/
def namedLiterals (s : DeferredStatement) (template : Template) :
    Except StatementError (String → Option String) :=
  match s.missingName? template.names, s.unusedName? template.names with
  | some name, _ => .error (.missingNamed name)
  | none, some name => .error (.unusedNamed name)
  | none, none => .ok fun name => (s.named.lookup name).map Binding.literal

/-- What an execution would do with the values collected so far. -/
def resolve (s : DeferredStatement) : Except StatementError Resolution :=
  let template := s.template
  if !template.hasMarkers then
    if s.skipsConstraints && isConstraint s.sql then .ok (.skip s.sql)
    else
      let supplied := s.positional.length + s.named.length
      if supplied = 0 then .ok (.direct s.sql) else .error (.bindingArity 0 supplied)
  else if template.isMixed then .error .mixedPlaceholders
  else do
    let positional ← s.positionalLiterals template
    let named ← s.namedLiterals template
    return .literal (template.render positional named)

/-- The text that an execution would send or skip. -/
def literalSql (s : DeferredStatement) : Except StatementError String := s.resolve.map Resolution.sql

/-! ### executing -/

/-- What came of an execution: the result, the statement after it, and the text handed to the raw connection. -/
structure Execution where
  result : Except StatementError Unit
  statement : DeferredStatement
  sent : Option Sent

def afterSending (s : DeferredStatement) : DeferredStatement :=
  { s with positional := [], named := [], state := .delegated }

/-- Hands a text over and judges the outcome; a false execution with a success state counts as a success. -/
def send (s : DeferredStatement) (connection : RawConnection) (history : List Sent) (text : Sent) : Execution :=
  let after := s.afterSending
  let failed := fun error => (⟨.error error, after, some text⟩ : Execution)
  match connection.prepare (text :: history) with
  | .error error => failed error.toStatementError
  | .ok raw =>
    match raw.execution with
    | .error error => failed error.toStatementError
    | .ok succeeded =>
      if succeeded || isSuccessState raw.info.sqlState then
        ⟨.ok (), { after with raw := some raw }, some text⟩
      else
        failed (.driver raw.info.sqlState (raw.info.message.getD "statement execution failed"))

def carryOut (s : DeferredStatement) (connection : RawConnection) (history : List Sent) :
    Resolution → Execution
  | .skip _ => ⟨.ok (), { s with state := .skipped }, none⟩
  | .direct sql => s.send connection history ⟨.direct, sql⟩
  | .literal sql => s.send connection history ⟨.prepared, sql⟩

/-- Executes the statement; values given here take the place of the positional ones. -/
def execute (s : DeferredStatement) (connection : RawConnection) (history : List Sent)
    (values : Option (List Value)) : Execution :=
  if s.state.isExecuted then ⟨.error .alreadyExecuted, s, none⟩
  else
    let prepared : Except StatementError DeferredStatement :=
      match values with
      | none => .ok s
      | some values => { s with positional := [] }.bindAll values
    match prepared with
    | .error error => ⟨.error error, s, none⟩
    | .ok bound =>
      match bound.resolve with
      | .error error => ⟨.error error, bound, none⟩
      | .ok resolution => bound.carryOut connection history resolution

/-- The rows of the execution, and the statement after fetching them; a skipped statement has none. -/
def fetchAll (s : DeferredStatement) : Except StatementError (List Row) × DeferredStatement :=
  match s.state, s.raw with
  | .skipped, _ => (.ok [], s)
  | .delegated, some raw =>
    ((raw.fetch s.fetches).mapError DriverError.toStatementError, { s with fetches := s.fetches + 1 })
  | _, _ => (.error .notExecuted, s)

def rowsAffected (s : DeferredStatement) : Nat := (s.raw.map RawStatement.affected).getD 0

end DeferredStatement

end WarehouseSql
