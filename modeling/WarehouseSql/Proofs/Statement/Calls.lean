import Mathlib.Tactic.Common
import WarehouseSql.Statement.Basic

/-!
Calls on a deferred statement, one after another.  `DeferredStatement.run` keeps an event for each call: the statement
before and after it, its result, and the text that it sent.  An execution depends on the statement only through the
bindings in force (`DeferredStatement.inForce`), and **it sends what these resolve to, or nothing**
(`sent_execute`).
-/

namespace WarehouseSql

inductive Call where
  | bind (position : Nat) (binding : Binding)
  | bindNamed (name : String) (binding : Binding)
  | bindAll (values : List Value)
  | resolve
  | literalSql
  | execute (values : Option (List Value))
  | fetchAll

/-- What a call gives back where it does not fail. -/
inductive Answer where
  | done
  | resolution (r : Resolution)
  | text (sql : String)
  | rows (rows : List Row)

/-- A call with what it did. -/
structure Event where
  call : Call
  before : DeferredStatement
  result : Except StatementError Answer
  after : DeferredStatement
  sent : Option Sent

def Resolution.sent? : Resolution → Option Sent
  | .skip _ => none
  | .direct sql => some ⟨.direct, sql⟩
  | .literal sql => some ⟨.prepared, sql⟩

lemma Resolution.sql_of_sent? {r : Resolution} {text : Sent} (h : r.sent? = some text) : text.sql = r.sql := by
  cases r <;> simp [Resolution.sent?] at h <;> subst h <;> rfl

namespace DeferredStatement

/-- A call that binds: a statement that cannot be bound stays as it is. -/
def bindingEvent (s : DeferredStatement) (call : Call) (bound : Except StatementError DeferredStatement) : Event :=
  match bound with
  | .ok after => ⟨call, s, .ok .done, after, none⟩
  | .error error => ⟨call, s, .error error, s, none⟩

/-- One call, after the texts of a history. -/
def event (s : DeferredStatement) (connection : RawConnection) (history : List Sent) (call : Call) : Event :=
  match call with
  | .bind position binding => s.bindingEvent call (s.bind position binding)
  | .bindNamed name binding => s.bindingEvent call (s.bindNamed name binding)
  | .bindAll values => s.bindingEvent call (s.bindAll values)
  | .resolve => ⟨call, s, s.resolve.map .resolution, s, none⟩
  | .literalSql => ⟨call, s, s.literalSql.map .text, s, none⟩
  | .execute values =>
    let execution := s.execute connection history values
    ⟨call, s, execution.result.map fun _ => .done, execution.statement, execution.sent⟩
  | .fetchAll => ⟨call, s, s.fetchAll.1.map .rows, s.fetchAll.2, none⟩

/-- Calls one after another; the texts that they send join the history. -/
def run (s : DeferredStatement) (connection : RawConnection) (history : List Sent) : List Call → List Event
  | [] => []
  | call :: calls =>
    let event := s.event connection history call
    event :: event.after.run connection (event.sent.toList ++ history) calls

def fresh (sql : String) (skipsConstraints : Bool) : DeferredStatement := { sql, skipsConstraints }

/-! ### bindings in force -/

/-- Values at the positions from `start` on. -/
def numbered (start : Nat) : List Value → List (Nat × Binding)
  | [] => []
  | value :: values => (start, ⟨value, none⟩) :: numbered (start + 1) values

def stateAfter (s : DeferredStatement) : List Value → StatementState
  | [] => s.state
  | _ :: _ => .bound

/-- The statement with the bindings that an execution goes by: values given there take the place of the positional
ones. -/
def inForce (s : DeferredStatement) : Option (List Value) → DeferredStatement
  | none => s
  | some values => { s with positional := numbered 1 values, state := s.stateAfter values }

lemma insertEntry_of_forall_lt {entries : List (Nat × Binding)} {key : Nat} (h : ∀ entry ∈ entries, entry.1 < key)
    (binding : Binding) : insertEntry key binding entries = entries ++ [(key, binding)] := by
  induction entries with
  | nil => rfl
  | cons entry entries ih =>
    have hlt := h entry List.mem_cons_self
    rw [insertEntry, if_neg (by omega), if_neg (by omega), ih fun e he => h e (List.mem_cons_of_mem _ he)]
    rfl

/-- A value bound at a position that follows the bound ones. -/
lemma bind_of_forall_lt {s : DeferredStatement} {position : Nat} (hs : s.state.isExecuted = false)
    (hposition : 0 < position) (h : ∀ entry ∈ s.positional, entry.1 < position) (binding : Binding) :
    s.bind position binding =
      .ok { s with positional := s.positional ++ [(position, binding)], state := .bound } := by
  rw [bind, hs, if_neg (by simp), if_neg (by omega), insertEntry_of_forall_lt h]

lemma forall_concat_lt {entries : List (Nat × Binding)} {start : Nat} (h : ∀ entry ∈ entries, entry.1 < start)
    (binding : Binding) : ∀ entry ∈ entries ++ [(start, binding)], entry.1 < start + 1 := by
  intro entry hentry
  rcases List.mem_append.1 hentry with hentry | hentry
  · exact Nat.lt_succ_of_lt (h entry hentry)
  · rw [List.mem_singleton.1 hentry]
    exact Nat.lt_succ_self _

/-- Values bound at the positions that follow the bound ones. -/
lemma bindFrom_eq {s : DeferredStatement} {start : Nat} {values : List Value} (hs : s.state.isExecuted = false)
    (hstart : 0 < start) (h : ∀ entry ∈ s.positional, entry.1 < start) :
    s.bindFrom start values =
      .ok { s with positional := s.positional ++ numbered start values, state := s.stateAfter values } := by
  induction values generalizing s start with
  | nil => simp [bindFrom, numbered, stateAfter]
  | cons value values ih =>
    show (s.bind start ⟨value, none⟩ >>= fun bound => bound.bindFrom (start + 1) values) = _
    rw [bind_of_forall_lt hs hstart h]
    refine (ih rfl (Nat.succ_pos _) (forall_concat_lt h _)).trans ?_
    cases values <;> simp [stateAfter, numbered]

/-- Values that take the place of the positional ones can always be bound. -/
lemma bindAll_eq {s : DeferredStatement} (hs : s.state.isExecuted = false) (values : List Value) :
    { s with positional := [] }.bindAll values =
      .ok { s with positional := numbered 1 values, state := s.stateAfter values } := by
  refine (bindFrom_eq (s := { s with positional := [] }) hs Nat.one_pos (by simp)).trans ?_
  rw [List.nil_append]
  cases values <;> rfl

/-! ### executions -/

lemma execute_of_isExecuted {s : DeferredStatement} (hs : s.state.isExecuted = true) (connection : RawConnection)
    (history : List Sent) (values : Option (List Value)) :
    s.execute connection history values = ⟨.error .alreadyExecuted, s, none⟩ := by
  unfold execute
  rw [if_pos hs]

/-- An execution carries out what the bindings in force resolve to. -/
lemma execute_eq {s : DeferredStatement} (hs : s.state.isExecuted = false) (connection : RawConnection)
    (history : List Sent) (values : Option (List Value)) :
    s.execute connection history values =
      match (s.inForce values).resolve with
      | .error error => ⟨.error error, s.inForce values, none⟩
      | .ok resolution => (s.inForce values).carryOut connection history resolution := by
  unfold execute
  rw [if_neg (by simp [hs])]
  cases values with
  | none => rfl
  | some values =>
    simp only [bindAll_eq hs]
    rfl

/-- What sending leaves behind: the text is out and the bindings are gone, and only a success keeps the raw
statement. -/
structure Sends (s : DeferredStatement) (text : Sent) (e : Execution) : Prop where
  sent : e.sent = some text
  state : e.statement.state = .delegated
  positional : e.statement.positional = []
  named : e.statement.named = []
  outcome : (e.result = .ok () ∧ e.statement.raw.isSome = true) ∨
    ∃ error, e.result = .error error ∧ e.statement.raw = s.raw

/-- **However the raw connection behaves**, the text has been sent and the bindings are gone. -/
lemma sends_send (s : DeferredStatement) (connection : RawConnection) (history : List Sent) (text : Sent) :
    Sends s text (s.send connection history text) := by
  unfold send
  dsimp only
  split
  · exact ⟨rfl, rfl, rfl, rfl, .inr ⟨_, rfl, rfl⟩⟩
  · split
    · exact ⟨rfl, rfl, rfl, rfl, .inr ⟨_, rfl, rfl⟩⟩
    · split
      · exact ⟨rfl, rfl, rfl, rfl, .inl ⟨rfl, rfl⟩⟩
      · exact ⟨rfl, rfl, rfl, rfl, .inr ⟨_, rfl, rfl⟩⟩

/-- What an execution of a statement that has not been executed comes to: a failure before anything is sent, a skip,
or a text sent. -/
inductive Executes (s : DeferredStatement) (values : Option (List Value)) (e : Execution) : Prop
  | refused (error : StatementError) (h : (s.inForce values).resolve = .error error)
      (he : e = ⟨.error error, s.inForce values, none⟩)
  | skipped (sql : String) (h : (s.inForce values).resolve = .ok (.skip sql))
      (he : e = ⟨.ok (), { s.inForce values with state := .skipped }, none⟩)
  | sent (resolution : Resolution) (text : Sent) (h : (s.inForce values).resolve = .ok resolution)
      (htext : resolution.sent? = some text) (he : Sends (s.inForce values) text e)

lemma executes_execute {s : DeferredStatement} (hs : s.state.isExecuted = false) (connection : RawConnection)
    (history : List Sent) (values : Option (List Value)) :
    Executes s values (s.execute connection history values) := by
  rw [execute_eq hs]
  cases h : (s.inForce values).resolve with
  | error error => exact .refused error h rfl
  | ok resolution =>
    cases resolution with
    | skip sql => exact .skipped sql h rfl
    | direct sql => exact .sent _ _ h rfl (sends_send _ _ _ _)
    | literal sql => exact .sent _ _ h rfl (sends_send _ _ _ _)

/-! ### runs -/

/-- An event of a run is one call on a statement that the calls before it lead to. -/
lemma exists_of_mem_run {s : DeferredStatement} {P : DeferredStatement → Prop} (connection : RawConnection)
    (history : List Sent) {calls : List Call} (hs : P s)
    (hstep : ∀ s history call, P s → P (s.event connection history call).after) {e : Event}
    (he : e ∈ s.run connection history calls) :
    ∃ before history call, P before ∧ e = before.event connection history call := by
  induction calls generalizing s history with
  | nil => simp [run] at he
  | cons call calls ih =>
    rcases List.mem_cons.1 he with rfl | he
    · exact ⟨s, history, call, hs, rfl⟩
    · exact ih _ (hstep s history call hs) he

end DeferredStatement

end WarehouseSql
