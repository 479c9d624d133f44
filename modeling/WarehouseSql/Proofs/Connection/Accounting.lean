import WarehouseSql.Proofs.Connection.Running

/-!
The account of a run: which text it hands to the raw connection, and which entry it leaves in the log.  A statement with
its values resolves to a text or not (`Connection.resolution`) before the session is looked at; **one call hands over
what the statement resolves to, at most, and logs the same text** (`Connection.accounted`), and **calls in a row hand
over the literals of those that resolve and are neither skipped nor pretended** (`Connection.runs_accounted`).
-/

namespace WarehouseSql

open WarehouseSql.Action (on on_bind)

/-! ### calls -/

/-- What is wanted of a statement that is run: its effect, the number of rows that it affected, or its rows. -/
inductive RunKind where
  | statement
  | affecting
  | select

/-- A statement to be run with its values. -/
structure RunCall where
  kind : RunKind
  sql : String
  bindings : Bindings

namespace RunCall

def step : RunCall → Step
  | ⟨.statement, sql, bindings⟩ => .statement sql bindings
  | ⟨.affecting, sql, bindings⟩ => .affecting sql bindings
  | ⟨.select, sql, bindings⟩ => .select sql bindings

/-- The reply that a call makes of the statement that has been run; only fetching rows can fail. -/
def reply : RunKind → Option DeferredStatement → Except ConnectionError Reply
  | .statement, _ => .ok (.flag true)
  | .affecting, result => .ok (.count ((result.map DeferredStatement.rowsAffected).getD 0))
  | .select, none => .ok (.rows [])
  | .select, some statement => (statement.fetchAll.1.mapError .statement).map .rows

end RunCall

namespace Connection

variable {c : Connection} {s : Session}

/-- **A call runs its statement, and nothing else touches the session.** -/
lemma on_perform_step (c : Connection) (call : RunCall) (s : Session) :
    on (c.perform call.step) s =
      ((on (c.run call.sql call.bindings) s).1.bind (RunCall.reply call.kind),
        (on (c.run call.sql call.bindings) s).2) := by
  obtain ⟨kind, sql, bindings⟩ := call
  cases kind with
  | statement =>
    rw [RunCall.step, perform, replying, Connection.statement, on_bind, on_bind]
    rcases on (c.run sql bindings) s with ⟨_ | _, _⟩ <;> rfl
  | affecting =>
    rw [RunCall.step, perform, affecting, on_bind, on_bind]
    rcases on (c.run sql bindings) s with ⟨_ | _, _⟩ <;> rfl
  | select =>
    rw [RunCall.step, perform, select, on_bind, on_bind]
    rcases on (c.run sql bindings) s with ⟨_ | _ | statement, t⟩
    · rfl
    · rfl
    · dsimp only [RunCall.reply, Except.bind]
      rw [Action.on_ofStatement]
      cases statement.fetchAll.1 <;> rfl

lemma snd_on_statement (c : Connection) (sql : String) (bindings : Bindings) (s : Session) :
    (on (c.statement sql bindings) s).2 = (on (c.run sql bindings) s).2 := by
  rw [statement, on_bind]
  cases (on (c.run sql bindings) s).1 <;> rfl

lemma snd_on_select (c : Connection) (sql : String) (bindings : Bindings) (s : Session) :
    (on (c.select sql bindings) s).2 = (on (c.run sql bindings) s).2 := by
  rw [select, on_bind]
  rcases on (c.run sql bindings) s with ⟨_ | _ | statement, t⟩
  · rfl
  · rfl
  · dsimp only
    rw [Action.on_ofStatement]

/-! ### one run -/

/-- What a statement with its values resolves to; it fails where the values cannot be bound or do not fit. -/
def resolution (c : Connection) (sql : String) (bindings : Bindings) : Except StatementError Resolution :=
  c.bound sql bindings >>= DeferredStatement.resolve

/-- The account of a run that takes one session to another: the text handed over, if there is one, and the entry in the
log, if there is one. -/
structure Accounted (c : Connection) (sql : String) (bindings : Bindings) (s t : Session) (handed : Option Sent) :
    Prop where
  /-- At most one text is handed over. -/
  sent : t.sent = handed.toList ++ s.sent
  pretended : s.pretending = true → handed = none
  refused : ∀ error, c.resolution sql bindings = .error error → handed = none
  skipped : ∀ text, c.resolution sql bindings = .ok (.skip text) → handed = none
  /-- In all other cases the text is what the statement resolves to, whatever the raw connection makes of it. -/
  live : s.pretending = false → ∀ resolution, c.resolution sql bindings = .ok resolution → handed = resolution.sent?
  /-- A run that succeeds while the connection pretends or logs makes one entry. -/
  logged : ∀ result, (on (c.run sql bindings) s).1 = .ok result → (s.pretending || s.logging) = true →
    ∃ literal, t.log = s.log ++ [⟨sql, bindings.positional.map Supplied.normalize ++
        bindings.named.map (fun entry => entry.2.normalize), literal⟩] ∧
      (∀ resolution, c.resolution sql bindings = .ok resolution → literal = resolution.sql) ∧
      ∀ text, handed = some text → literal = text.sql
  unlogged : (∃ error, (on (c.run sql bindings) s).1 = .error error) ∨ (s.pretending || s.logging) = false →
    t.log = s.log
  pretending : t.pretending = s.pretending
  logging : t.logging = s.logging

lemma values_normalized (bindings : Bindings) :
    bindings.normalized.values =
      bindings.positional.map Supplied.normalize ++ bindings.named.map fun entry => entry.2.normalize := by
  rw [Bindings.values, Bindings.normalized, List.map_map, List.map_map]
  rfl

lemma entry_eq (c : Connection) (sql : String) (bindings : Bindings) :
    c.entry sql bindings =
      (c.resolution sql bindings).map fun resolution => ⟨sql, bindings.normalized.values, resolution.sql⟩ := by
  rw [entry, resolution]
  cases c.bound sql bindings <;> rfl

lemma entry_of_resolution {sql : String} {bindings : Bindings} {resolution : Resolution}
    (h : c.resolution sql bindings = .ok resolution) :
    c.entry sql bindings = .ok ⟨sql, bindings.normalized.values, resolution.sql⟩ := by
  rw [entry_eq, h]
  rfl

/-- What an execution hands over does not depend on the raw connection. -/
lemma sent_execute {statement : DeferredStatement} {resolution : Resolution}
    (hstate : statement.state.isExecuted = false) (hresolve : statement.resolve = .ok resolution) (raw : RawConnection)
    (history : List Sent) :
    (statement.execute raw history none).sent = resolution.sent? := by
  rw [DeferredStatement.execute_eq hstate, DeferredStatement.inForce, hresolve]
  cases resolution with
  | skip sql => rfl
  | direct sql => exact (DeferredStatement.sends_send _ _ _ _).sent
  | literal sql => exact (DeferredStatement.sends_send _ _ _ _).sent

section Cases

variable {sql : String} {bindings : Bindings} {resolution : Resolution}

lemma accounted_of_error {error : StatementError} (h : c.resolution sql bindings = .error error) :
    Accounted c sql bindings s (on (c.run sql bindings) s).2 none := by
  have hentry : c.entry sql bindings = .error error := by
    rw [entry_eq, h]
    rfl
  rw [on_run_of_error hentry]
  exact {
    sent := rfl
    pretended := fun _ => rfl
    refused := fun _ _ => rfl
    skipped := fun _ _ => rfl
    live := fun _ resolution hresolution => by rw [h] at hresolution; cases hresolution
    logged := fun _ hresult => by rw [on_run_of_error hentry] at hresult; cases hresult
    unlogged := fun _ => rfl
    pretending := rfl
    logging := rfl }

lemma accounted_of_pretending (h : c.resolution sql bindings = .ok resolution) (hs : s.pretending = true) :
    Accounted c sql bindings s (on (c.run sql bindings) s).2 none := by
  have hrun := on_run_of_pretending (entry_of_resolution h) hs
  rw [values_normalized] at hrun
  refine {
    sent := by rw [hrun]; rfl
    pretended := fun _ => rfl
    refused := fun _ _ => rfl
    skipped := fun _ _ => rfl
    live := fun hlive => by rw [hs] at hlive; cases hlive
    logged := fun _ _ _ => ⟨resolution.sql, by rw [hrun], fun other hother => ?_, fun _ hnone => by cases hnone⟩
    unlogged := ?_
    pretending := by rw [hrun]
    logging := by rw [hrun] }
  · rw [h] at hother
    rw [Except.ok.inj hother]
  · rintro (⟨error, herror⟩ | hquiet)
    · rw [hrun] at herror
      cases herror
    · rw [hs] at hquiet
      cases hquiet

lemma accounted_of_live (h : c.resolution sql bindings = .ok resolution) (hs : s.pretending = false) :
    Accounted c sql bindings s (on (c.run sql bindings) s).2 resolution.sent? := by
  obtain ⟨statement, hbound, hstate⟩ := c.exists_bound sql bindings
  have hresolve : statement.resolve = .ok resolution := by
    rw [Connection.resolution, hbound] at h
    exact h
  have hrun := on_run_of_live hbound (entry_of_resolution h) hs
  have hsent := sent_execute hstate hresolve c.raw s.sent
  rw [values_normalized] at hrun
  refine {
    sent := by rw [hrun, ← hsent]
    pretended := fun hoff => by rw [hs] at hoff; cases hoff
    refused := fun error herror => by rw [h] at herror; cases herror
    skipped := fun text htext => by rw [h] at htext; cases htext; rfl
    live := fun _ other hother => by rw [h] at hother; rw [Except.ok.inj hother]
    logged := fun result hresult hlogs => ?_
    unlogged := ?_
    pretending := by rw [hrun]
    logging := by rw [hrun] }
  · rw [hrun] at hresult
    rw [hs, Bool.false_or] at hlogs
    have hsucceeds : (statement.execute c.raw s.sent none).result.toBool = true := by
      cases hexecuted : (statement.execute c.raw s.sent none).result with
      | ok _ => rfl
      | error error =>
        simp only [hexecuted] at hresult
        cases hresult
    refine ⟨resolution.sql, ?_, fun other hother => ?_, fun text htext => (Resolution.sql_of_sent? htext).symm⟩
    · simp only [hrun, hsucceeds, hlogs, Bool.and_self, if_true]
    · rw [h] at hother
      rw [Except.ok.inj hother]
  · intro hquiet
    have hsilent : ((statement.execute c.raw s.sent none).result.toBool && s.logging) = false := by
      rcases hquiet with ⟨error, herror⟩ | hquiet
      · rw [hrun] at herror
        cases hexecuted : (statement.execute c.raw s.sent none).result with
        | ok _ =>
          simp only [hexecuted] at herror
          cases herror
        | error error => rfl
      · rw [hs, Bool.false_or] at hquiet
        rw [hquiet, Bool.and_false]
    simp only [hrun, hsilent, Bool.false_eq_true, if_false, List.append_nil]

end Cases

/-- **Every run has an account**, whatever the session and however the raw connection behaves. -/
theorem accounted (c : Connection) (sql : String) (bindings : Bindings) (s : Session) :
    ∃ handed, Accounted c sql bindings s (on (c.run sql bindings) s).2 handed := by
  cases hresolution : c.resolution sql bindings with
  | error error => exact ⟨none, accounted_of_error hresolution⟩
  | ok resolution =>
    cases hpretending : s.pretending with
    | true => exact ⟨none, accounted_of_pretending hresolution hpretending⟩
    | false => exact ⟨_, accounted_of_live hresolution hpretending⟩

/-- What a run hands over outside of pretending, and when it hands over nothing. -/
lemma exists_handed (c : Connection) (sql : String) (bindings : Bindings) (hs : s.pretending = false) :
    ∃ handed : Option Sent, (on (c.run sql bindings) s).2.sent = handed.toList ++ s.sent ∧
      (on (c.run sql bindings) s).2.pretending = false ∧
      ∀ text, handed = some text ↔
        ∃ resolution, c.resolution sql bindings = .ok resolution ∧ resolution.sent? = some text := by
  obtain ⟨handed, haccount⟩ := c.accounted sql bindings s
  refine ⟨handed, haccount.sent, haccount.pretending.trans hs, fun text => ?_⟩
  cases hresolution : c.resolution sql bindings with
  | error error =>
    rw [haccount.refused error hresolution]
    simp
  | ok resolution =>
    rw [haccount.live hs resolution hresolution]
    simp

/-! ### runs in a row -/

/-- The literal of a call that resolves and is not skipped. -/
def literal? (c : Connection) (call : RunCall) : Option String :=
  match c.resolution call.sql call.bindings with
  | .ok (.skip _) => none
  | .ok resolution => some resolution.sql
  | .error _ => none

/-- The session after calls in a row, whether they fail or not. -/
def afterCalls (c : Connection) (s : Session) (calls : List RunCall) : Session :=
  calls.foldl (fun s call => (on (c.perform call.step) s).2) s

lemma Accounted.map_sql_eq {sql : String} {bindings : Bindings} {t : Session} {handed : Option Sent}
    (h : Accounted c sql bindings s t handed) (hs : s.pretending = false) (kind : RunKind) :
    handed.map Sent.sql = c.literal? ⟨kind, sql, bindings⟩ := by
  rw [literal?]
  cases hresolution : c.resolution sql bindings with
  | error error => rw [h.refused error hresolution]; rfl
  | ok resolution => cases resolution <;> rw [h.live hs _ hresolution] <;> rfl

/-- What calls in a row hand over. -/
lemma sent_afterCalls (c : Connection) (s : Session) (calls : List RunCall) :
    (c.afterCalls s calls).pretending = s.pretending ∧ (c.afterCalls s calls).logging = s.logging ∧
      ∃ sent, (c.afterCalls s calls).sent = sent ++ s.sent ∧
        (sent.map Sent.sql).reverse = if s.pretending then [] else calls.filterMap c.literal? := by
  induction calls generalizing s with
  | nil => exact ⟨rfl, rfl, [], rfl, by simp⟩
  | cons call calls ih =>
    obtain ⟨handed, haccount⟩ := c.accounted call.sql call.bindings s
    have hfirst : c.afterCalls s (call :: calls) = c.afterCalls (on (c.run call.sql call.bindings) s).2 calls := by
      rw [afterCalls, List.foldl_cons, on_perform_step]
      rfl
    obtain ⟨hpretending, hlogging, sent, hsent, htexts⟩ := ih (on (c.run call.sql call.bindings) s).2
    rw [haccount.pretending] at hpretending htexts
    rw [haccount.logging] at hlogging
    rw [hfirst]
    refine ⟨hpretending, hlogging, sent ++ handed.toList, ?_, ?_⟩
    · rw [hsent, haccount.sent, List.append_assoc]
    · -- the last text stands first, so that those of the later calls come in front
      rw [List.map_append, List.reverse_append, htexts]
      cases hs : s.pretending with
      | true =>
        rw [haccount.pretended hs]
        rfl
      | false =>
        have htext := haccount.map_sql_eq hs call.kind
        rw [List.filterMap_cons, ← htext]
        cases handed <;> rfl

/-- **Runs are accounted for.**  A call runs its statement and then replies; the run hands over at most one text,
nothing if the connection pretends, the values do not fit or the statement is skipped, and otherwise what the statement
resolves to; it makes one entry in the log, with the same text, exactly if it succeeds while the connection pretends or
logs.  Calls in a row hand over the literals of those that resolve and are neither skipped nor pretended. -/
theorem runs_accounted (c : Connection) (s : Session) :
    (∀ call : RunCall,
      (on (c.perform call.step) s).1 = (on (c.run call.sql call.bindings) s).1.bind (RunCall.reply call.kind) ∧
      ∃ handed, Accounted c call.sql call.bindings s (on (c.perform call.step) s).2 handed) ∧
    ∀ calls : List RunCall,
      (c.afterCalls s calls).pretending = s.pretending ∧ (c.afterCalls s calls).logging = s.logging ∧
      ∃ sent, (c.afterCalls s calls).sent = sent ++ s.sent ∧
        (sent.map Sent.sql).reverse = if s.pretending then [] else calls.filterMap c.literal? := by
  refine ⟨fun call => ?_, c.sent_afterCalls s⟩
  rw [on_perform_step]
  exact ⟨rfl, c.accounted call.sql call.bindings s⟩

end Connection

end WarehouseSql
