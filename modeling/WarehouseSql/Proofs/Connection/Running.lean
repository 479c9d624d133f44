import WarehouseSql.Connection.Step
import WarehouseSql.Proofs.Statement.Calls

/-!
Actions on a session, and what running one statement does to it.  An action takes a session to an outcome and a session
(`Action.on`).  Before a run touches the session its entry in the log is settled (`Connection.entry`); then it is refused
(`on_run_of_error`), pretended (`on_run_of_pretending`) or executed (`on_run_of_live`).
-/

namespace WarehouseSql

/-! ### actions -/

namespace Action

variable {α β : Type}

/-- The outcome of an action on a session, and the session after it. -/
def on (action : Action α) (s : Session) : Except ConnectionError α × Session := (action.run.run s).run

@[simp] lemma on_pure (a : α) (s : Session) : on (pure a) s = (.ok a, s) := rfl

@[simp] lemma on_get (s : Session) : on get s = (.ok s, s) := rfl

@[simp] lemma on_set (s t : Session) : on (set t) s = (.ok ⟨⟩, t) := rfl

@[simp] lemma on_modify (f : Session → Session) (s : Session) : on (modify f) s = (.ok ⟨⟩, f s) := rfl

@[simp] lemma on_attempt (action : Action α) (s : Session) :
    on action.attempt s = (.ok (on action s).1, (on action s).2) := rfl

/-- Two actions in a row: the second starts where the first ends, unless this fails. -/
lemma on_bind (action : Action α) (next : α → Action β) (s : Session) :
    on (action >>= next) s =
      match (on action s).1 with
      | .ok a => on (next a) (on action s).2
      | .error error => (.error error, (on action s).2) := by
  show (ExceptT.bindCont next (on action s).1).run (on action s).2 = _
  cases (on action s).1 <;> rfl

lemma snd_on_bind_pure (action : Action α) (f : α → β) (s : Session) :
    (on (action >>= fun a => pure (f a)) s).2 = (on action s).2 := by
  rw [on_bind]
  cases (on action s).1 <;> rfl

@[simp] lemma on_map (f : α → β) (action : Action α) (s : Session) :
    on (f <$> action) s = ((on action s).1.map f, (on action s).2) := by
  rw [map_eq_pure_bind, on_bind]
  cases h : (on action s).1 <;> rfl

lemma on_bind_of_ok {action : Action α} {next : α → Action β} {s t : Session} {a : α} (h : on action s = (.ok a, t)) :
    on (action >>= next) s = on (next a) t := by
  rw [on_bind, h]

lemma on_bind_of_error {action : Action α} {next : α → Action β} {s t : Session} {error : ConnectionError}
    (h : on action s = (.error error, t)) : on (action >>= next) s = (.error error, t) := by
  rw [on_bind, h]

lemma on_ofCompiled (compiled : Compiled α) (s : Session) :
    on (ofCompiled compiled) s = (compiled.mapError .grammar, s) := by
  cases compiled <;> rfl

lemma on_ofStatement (result : Except StatementError α) (s : Session) :
    on (ofStatement result) s = (result.mapError .statement, s) := by
  cases result <;> rfl

end Action

/-! ### raw connections that succeed -/

/-- A raw connection of which all calls succeed: every text is prepared and executed, and every fetch has rows. -/
structure RawConnection.Succeeds (raw : RawConnection) : Prop where
  prepare : ∀ history, ∃ prepared, raw.prepare history = .ok prepared
  execution : ∀ history prepared, raw.prepare history = .ok prepared →
    ∃ flag, prepared.execution = .ok flag ∧ (flag || isSuccessState prepared.info.sqlState) = true
  fetch : ∀ history prepared, raw.prepare history = .ok prepared → ∀ number, ∃ rows, prepared.fetch number = .ok rows

/-- A raw connection that does everything and finds nothing. -/
def RawConnection.willing : RawConnection := ⟨fun _ => .ok ⟨.ok true, ⟨"00000", none⟩, fun _ => .ok [], 1⟩⟩

lemma RawConnection.succeeds_willing : RawConnection.willing.Succeeds := by
  refine ⟨fun _ => ⟨_, rfl⟩, fun _ _ hprepare => ?_, fun _ _ hprepare _ => ?_⟩
  · cases hprepare
    exact ⟨true, rfl, rfl⟩
  · cases hprepare
    exact ⟨[], rfl⟩

namespace DeferredStatement

/-- An execution that succeeds: what the statement resolves to has been sent, and its rows can be fetched. -/
structure Succeeded (resolution : Resolution) (e : Execution) : Prop where
  result : e.result = .ok ()
  sent : e.sent = resolution.sent?
  rows : ∃ rows, e.statement.fetchAll.1 = .ok rows

lemma succeeded_send {raw : RawConnection} (h : raw.Succeeds) (s : DeferredStatement) (history : List Sent)
    (text : Sent) :
    (s.send raw history text).result = .ok () ∧ (s.send raw history text).sent = some text ∧
      ∃ rows, (s.send raw history text).statement.fetchAll.1 = .ok rows := by
  obtain ⟨prepared, hprepare⟩ := h.prepare (text :: history)
  obtain ⟨flag, hexecution, hflag⟩ := h.execution _ _ hprepare
  have hsend : s.send raw history text = ⟨.ok (), { s.afterSending with raw := some prepared }, some text⟩ := by
    simp only [send, hprepare, hexecution]
    rw [if_pos hflag]
  obtain ⟨rows, hrows⟩ := h.fetch _ _ hprepare s.fetches
  refine ⟨by rw [hsend], by rw [hsend], rows, ?_⟩
  rw [hsend]
  simp only [fetchAll, afterSending, hrows]
  rfl

/-- **On a raw connection that succeeds, a statement does what it resolves to.** -/
lemma succeeded_execute {raw : RawConnection} (h : raw.Succeeds) {s : DeferredStatement}
    (hs : s.state.isExecuted = false) {resolution : Resolution} (hresolve : s.resolve = .ok resolution)
    (history : List Sent) : Succeeded resolution (s.execute raw history none) := by
  rw [execute_eq hs, inForce, hresolve]
  cases resolution with
  | skip sql => exact ⟨rfl, rfl, [], rfl⟩
  | direct sql =>
    obtain ⟨hresult, hsent, hrows⟩ := succeeded_send h s history ⟨.direct, sql⟩
    exact ⟨hresult, hsent, hrows⟩
  | literal sql =>
    obtain ⟨hresult, hsent, hrows⟩ := succeeded_send h s history ⟨.prepared, sql⟩
    exact ⟨hresult, hsent, hrows⟩

end DeferredStatement

/-! ### bindings -/

/-- Values at the positions from `start` on, with the types that they are declared with. -/
def declaredFrom (start : Nat) : List Value → List (Nat × Binding)
  | [] => []
  | value :: values => (start, declare value) :: declaredFrom (start + 1) values

lemma map_fst_declaredFrom (start : Nat) (values : List Value) :
    (declaredFrom start values).map Prod.fst = List.range' start values.length := by
  induction values generalizing start with
  | nil => rfl
  | cons value values ih => rw [declaredFrom, List.map_cons, ih, List.length_cons, List.range'_succ]

lemma bindPositional_eq {s : DeferredStatement} {start : Nat} {values : List Value} (hs : s.state.isExecuted = false)
    (hstart : 0 < start) (h : ∀ entry ∈ s.positional, entry.1 < start) :
    bindPositional start values s =
      .ok { s with positional := s.positional ++ declaredFrom start values, state := s.stateAfter values } := by
  induction values generalizing s start with
  | nil => simp [bindPositional, declaredFrom, DeferredStatement.stateAfter]
  | cons value values ih =>
    show (s.bind start (declare value) >>= bindPositional (start + 1) values) = _
    rw [DeferredStatement.bind_of_forall_lt hs hstart h]
    refine (ih rfl (Nat.succ_pos _) (DeferredStatement.forall_concat_lt h _)).trans ?_
    cases values <;> simp [DeferredStatement.stateAfter, declaredFrom]

/-- Values can be bound to names as long as the statement has not been executed. -/
lemma exists_bindByName {s : DeferredStatement} (hs : s.state.isExecuted = false) (entries : List (String × Value)) :
    ∃ t, bindByName entries s = .ok t ∧ t.state.isExecuted = false := by
  induction entries generalizing s with
  | nil => exact ⟨s, rfl, hs⟩
  | cons entry entries ih =>
    obtain ⟨name, value⟩ := entry
    obtain ⟨t, ht, hstate⟩ := ih (s := { s with
      named := insertEntry (String.ofList (name.toList.dropWhile (· == ':'))) (declare value) s.named
      state := .bound }) rfl
    refine ⟨t, ?_, hstate⟩
    show (s.bindNamed name (declare value) >>= bindByName entries) = _
    rw [DeferredStatement.bindNamed, hs]
    exact ht

namespace Connection

open WarehouseSql.Action (on on_bind on_bind_of_ok on_bind_of_error)

/-! ### one statement -/

def bound (c : Connection) (sql : String) (bindings : Bindings) : Except StatementError DeferredStatement :=
  bindings.normalized.bindTo (c.prepare sql)

lemma exists_bound (c : Connection) (sql : String) (bindings : Bindings) :
    ∃ statement, c.bound sql bindings = .ok statement ∧ statement.state.isExecuted = false := by
  generalize hvalues : bindings.normalized.positional.map Supplied.normalize = values
  have hpositional : bindPositional 1 values (c.prepare sql) = .ok { c.prepare sql with
      positional := (c.prepare sql).positional ++ declaredFrom 1 values
      state := (c.prepare sql).stateAfter values } :=
    bindPositional_eq rfl Nat.one_pos (by simp [prepare])
  have hstate : ((c.prepare sql).stateAfter values).isExecuted = false := by cases values <;> rfl
  rw [bound, Bindings.bindTo, hvalues, hpositional]
  exact exists_bindByName hstate _

/-- The entry that a statement makes in the log. -/
def entry (c : Connection) (sql : String) (bindings : Bindings) : Except StatementError LoggedQuery :=
  match c.bound sql bindings with
  | .ok statement => statement.resolve.map fun resolution => ⟨sql, bindings.normalized.values, resolution.sql⟩
  | .error error => .error error

variable {c : Connection} {sql : String} {bindings : Bindings} {s : Session}

lemma exists_bound_of_entry {entry : LoggedQuery} (h : c.entry sql bindings = .ok entry) :
    ∃ statement resolution, c.bound sql bindings = .ok statement ∧ statement.resolve = .ok resolution ∧
      entry = ⟨sql, bindings.normalized.values, resolution.sql⟩ := by
  rw [Connection.entry] at h
  cases hbound : c.bound sql bindings with
  | error error => simp [hbound] at h
  | ok statement =>
    cases hresolve : statement.resolve with
    | error error => simp [hbound, hresolve, Except.map] at h
    | ok resolution =>
      refine ⟨statement, resolution, rfl, hresolve, ?_⟩
      simpa [hbound, hresolve, Except.map, eq_comm] using h

/-- A statement whose values do not fit is refused before anything happens. -/
lemma on_run_of_error {error : StatementError} (h : c.entry sql bindings = .error error) :
    on (c.run sql bindings) s = (.error (.statement error), s) := by
  rw [Connection.entry, bound] at h
  cases hbound : bindings.normalized.bindTo (c.prepare sql) with
  | error error =>
    rw [hbound] at h
    cases h
    exact on_bind_of_error (by rw [hbound]; rfl)
  | ok statement =>
    cases hresolve : statement.resolve with
    | error error =>
      rw [hbound] at h
      simp only [hresolve, Except.map, Except.error.injEq] at h
      subst h
      refine (on_bind_of_ok (by rw [hbound]; rfl)).trans (on_bind_of_error ?_)
      rw [DeferredStatement.literalSql, hresolve]
      rfl
    | ok resolution => simp [hbound, hresolve, Except.map] at h

/-- Pretending, a statement makes its entry and nothing else. -/
lemma on_run_of_pretending {entry : LoggedQuery} (h : c.entry sql bindings = .ok entry) (hs : s.pretending = true) :
    on (c.run sql bindings) s = (.ok none, { s with log := s.log ++ [entry] }) := by
  obtain ⟨statement, resolution, hbound, hresolve, rfl⟩ := exists_bound_of_entry h
  rw [bound] at hbound
  refine (on_bind_of_ok (a := statement) (t := s) (by rw [hbound]; rfl)).trans ?_
  refine (on_bind_of_ok (a := resolution.sql) (t := s) ?_).trans ?_
  · rw [DeferredStatement.literalSql, hresolve]
    rfl
  · refine (on_bind_of_ok (Action.on_get s)).trans ?_
    simp [hs, Except.map]

/-- An execution notes what was sent, whatever comes of it. -/
lemma on_execute (c : Connection) (statement : DeferredStatement) (s : Session) :
    on (c.execute statement) s =
      let execution := statement.execute c.raw s.sent none
      ((execution.result.mapError .statement).map fun _ => execution.statement,
        { s with sent := execution.sent.toList ++ s.sent }) := by
  refine (on_bind_of_ok (Action.on_get s)).trans ((on_bind_of_ok (Action.on_set _ _)).trans ?_)
  rw [on_bind, Action.on_ofStatement]
  obtain ⟨result, after, text⟩ := statement.execute c.raw s.sent none
  cases result <;> rfl

/-- Otherwise a statement is executed, and makes its entry if this succeeds while the connection logs. -/
lemma on_run_of_live {statement : DeferredStatement} {entry : LoggedQuery} (hbound : c.bound sql bindings = .ok statement)
    (h : c.entry sql bindings = .ok entry) (hs : s.pretending = false) :
    on (c.run sql bindings) s =
      let execution := statement.execute c.raw s.sent none
      ((execution.result.mapError .statement).map fun _ => some execution.statement,
        { s with
          sent := execution.sent.toList ++ s.sent
          log := s.log ++ if execution.result.toBool && s.logging then [entry] else [] }) := by
  obtain ⟨_, resolution, hbound', hresolve, rfl⟩ := exists_bound_of_entry h
  obtain rfl := Except.ok.inj (hbound.symm.trans hbound')
  rw [bound] at hbound
  refine (on_bind_of_ok (a := statement) (t := s) (by rw [hbound]; rfl)).trans ?_
  refine (on_bind_of_ok (a := resolution.sql) (t := s) ?_).trans ?_
  · rw [DeferredStatement.literalSql, hresolve]
    rfl
  · refine (on_bind_of_ok (Action.on_get s)).trans ?_
    simp only [hs, Bool.false_eq_true, if_false, Bool.false_or]
    rw [on_bind, Action.on_map, on_execute]
    obtain ⟨result, after, text⟩ := statement.execute c.raw s.sent none
    cases result with
    | error error => simp [hs, Except.map, Except.mapError, Except.toBool]
    | ok _ => cases s.logging <;> simp [hs, Except.map, Except.mapError, Except.toBool]

/-- **On a raw connection that succeeds, a run sends what the statement resolves to** and makes its entry if the
connection logs. -/
theorem on_run_of_succeeds (hraw : c.raw.Succeeds) {statement : DeferredStatement} {resolution : Resolution}
    (hbound : c.bound sql bindings = .ok statement) (hresolve : statement.resolve = .ok resolution)
    (hs : s.pretending = false) :
    ∃ after, (∃ rows, after.fetchAll.1 = .ok rows) ∧
      on (c.run sql bindings) s = (.ok (some after),
        { s with
          sent := resolution.sent?.toList ++ s.sent
          log := s.log ++ if s.logging then [⟨sql, bindings.normalized.values, resolution.sql⟩] else [] }) := by
  obtain ⟨_, hbound', hstate⟩ := c.exists_bound sql bindings
  obtain rfl := Except.ok.inj (hbound.symm.trans hbound')
  have hentry : c.entry sql bindings = .ok ⟨sql, bindings.normalized.values, resolution.sql⟩ := by
    rw [entry, hbound]
    simp only [hresolve]
    rfl
  obtain ⟨hresult, hsent, hrows⟩ := DeferredStatement.succeeded_execute hraw hstate hresolve s.sent
  refine ⟨_, hrows, ?_⟩
  rw [on_run_of_live hbound hentry hs]
  dsimp only
  rw [hresult, hsent]
  rfl

end Connection

end WarehouseSql
