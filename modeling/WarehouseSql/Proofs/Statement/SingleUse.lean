import WarehouseSql.Proofs.Statement.Calls

/-!
A deferred statement is for single use.  What one call does to the state, the bindings and the answer of the raw
connection is collected in `Sound` and in the event lemmas below it; **every run of calls keeps the rules of
`SingleUse`** (`singleUse_run`), whatever the raw connection does.
-/

namespace WarehouseSql

/-- The order of states: a statement is created, bound and executed, and what came of its execution stays. -/
def StatementState.Reaches : StatementState → StatementState → Prop
  | .created, _ => True
  | .bound, t => t ≠ .created
  | .delegated, t => t = .delegated
  | .skipped, t => t = .skipped

lemma StatementState.Reaches.refl (s : StatementState) : s.Reaches s := by
  cases s <;> simp [Reaches]

lemma StatementState.Reaches.trans {s t u : StatementState} (h1 : s.Reaches t) (h2 : t.Reaches u) : s.Reaches u := by
  cases s <;> cases t <;> simp_all [Reaches]

/-- Whether a call is for a statement that has not been executed. -/
def Call.needsFresh : Call → Bool
  | .bind _ _ => true
  | .bindNamed _ _ => true
  | .bindAll values => !values.isEmpty
  | .execute _ => true
  | _ => false

/-- Whether an event is an execution that succeeded. -/
def Event.Succeeds (e : Event) : Prop := (∃ values, e.call = .execute values) ∧ e.result = .ok .done

/-- The rules of single use, for the events of a statement's life. -/
structure SingleUse (events : List Event) : Prop where
  /-- At most one text is sent. -/
  once : (events.filterMap Event.sent).length ≤ 1
  /-- The states follow their order. -/
  forward : (events.flatMap fun e => [e.before.state, e.after.state]).Pairwise StatementState.Reaches
  /-- Only an execution sends, and its text is that of the bindings in force. -/
  text : ∀ e ∈ events, ∀ sent, e.sent = some sent →
    ∃ values, e.call = .execute values ∧ e.before.state.isExecuted = false ∧
      (e.before.inForce values).literalSql = .ok sent.sql
  /-- A resolution to a text is sent, and one to a skip is not. -/
  carried : ∀ e ∈ events, ∀ values resolution, e.call = .execute values → e.before.state.isExecuted = false →
    (e.before.inForce values).resolve = .ok resolution →
      e.sent = resolution.sent? ∧ e.after.state.isExecuted = true ∧ (e.sent = none → e.result = .ok .done)
  /-- A failed resolution fails the execution in the same way. -/
  refused : ∀ e ∈ events, ∀ values error, e.call = .execute values → e.before.state.isExecuted = false →
    (e.before.inForce values).literalSql = .error error →
      e.result = .error error ∧ e.sent = none ∧ e.after.state.isExecuted = false
  /-- Once a text has been sent, no bindings are left. -/
  cleared : ∀ e ∈ events, e.after.state = .delegated → e.after.positional = [] ∧ e.after.named = []
  /-- A used statement is neither bound nor executed. -/
  used : ∀ e ∈ events, e.before.state.isExecuted = true → e.call.needsFresh = true →
    e.result = .error .alreadyExecuted ∧ e.after = e.before ∧ e.sent = none
  /-- Rows can be fetched exactly after an execution that succeeded. -/
  fetched : ∀ before e after, events = before ++ e :: after → e.call = .fetchAll →
    (e.result = .error .notExecuted ↔ ∀ d ∈ before, ¬ d.Succeeds)

namespace DeferredStatement

/-! ### one call -/

/-- What holds of a statement at any time: before its execution it has no answer, after sending it has no bindings. -/
structure Sound (s : DeferredStatement) : Prop where
  raw : s.state.isExecuted = false → s.raw = none
  cleared : s.state = .delegated → s.positional = [] ∧ s.named = []

/-- Whether there are rows to fetch. -/
def IsAnswered (s : DeferredStatement) : Prop :=
  s.state = .skipped ∨ s.state = .delegated ∧ s.raw.isSome = true

/-- A statement after a call that binds. -/
structure Binds (s after : DeferredStatement) : Prop where
  fresh : s.state.isExecuted = false
  state : s.state.Reaches after.state
  unexecuted : after.state.isExecuted = false
  raw : after.raw = s.raw

lemma reaches_bound {s : DeferredStatement} (hs : s.state.isExecuted = false) : s.state.Reaches .bound := by
  cases h : s.state <;> simp_all [StatementState.isExecuted, StatementState.Reaches]

lemma binds_bind {s after : DeferredStatement} {position : Nat} {binding : Binding}
    (h : s.bind position binding = .ok after) : Binds s after := by
  unfold bind at h
  split_ifs at h with hs hposition
  cases h
  have hfresh : s.state.isExecuted = false := by simpa using hs
  exact ⟨hfresh, reaches_bound hfresh, rfl, rfl⟩

lemma binds_bindNamed {s after : DeferredStatement} {name : String} {binding : Binding}
    (h : s.bindNamed name binding = .ok after) : Binds s after := by
  unfold bindNamed at h
  split_ifs at h with hs
  cases h
  have hfresh : s.state.isExecuted = false := by simpa using hs
  exact ⟨hfresh, reaches_bound hfresh, rfl, rfl⟩

lemma binds_bindFrom {s after : DeferredStatement} {start : Nat} {values : List Value}
    (h : s.bindFrom start values = .ok after) : after = s ∧ values = [] ∨ Binds s after := by
  induction values generalizing s start with
  | nil =>
    cases h
    exact .inl ⟨rfl, rfl⟩
  | cons value values ih =>
    have h : (s.bind start ⟨value, none⟩ >>= fun bound => bound.bindFrom (start + 1) values) = .ok after := h
    cases hbind : s.bind start ⟨value, none⟩ with
    | error error =>
      rw [hbind] at h
      cases h
    | ok bound =>
      rw [hbind] at h
      have hbound := binds_bind hbind
      rcases ih (s := bound) h with ⟨rfl, -⟩ | hafter
      · exact .inr hbound
      · exact .inr ⟨hbound.fresh, hbound.state.trans hafter.state, hafter.unexecuted, hafter.raw.trans hbound.raw⟩

/-- What an event can be. -/
inductive Shape (s : DeferredStatement) (e : Event) : Prop
  /-- a call that comes too late -/
  | late (hs : s.state.isExecuted = true) (result : e.result = .error .alreadyExecuted) (after : e.after = s)
      (sent : e.sent = none) (fetch : e.call ≠ .fetchAll)
  /-- a call that changes nothing -/
  | still (after : e.after = s) (sent : e.sent = none) (execute : ∀ values, e.call ≠ .execute values)
      (fresh : s.state.isExecuted = true → e.call.needsFresh = false) (fetch : e.call ≠ .fetchAll)
  | binds (h : Binds s e.after) (sent : e.sent = none) (execute : ∀ values, e.call ≠ .execute values)
      (fetch : e.call ≠ .fetchAll)
  | executes (values : Option (List Value)) (execution : Execution) (hs : s.state.isExecuted = false)
      (call : e.call = .execute values) (result : e.result = execution.result.map fun _ => .done)
      (after : e.after = execution.statement) (sent : e.sent = execution.sent) (h : Executes s values execution)
  | fetches (call : e.call = .fetchAll) (fetches : Nat) (after : e.after = { s with fetches := fetches })
      (sent : e.sent = none) (result : e.result = .error .notExecuted ↔ ¬ s.IsAnswered)

lemma shape_bindingEvent {s : DeferredStatement} {call : Call} {bound : Except StatementError DeferredStatement}
    (hexecute : ∀ values, call ≠ .execute values) (hfetch : call ≠ .fetchAll)
    (hok : ∀ after, bound = .ok after → after = s ∧ call.needsFresh = false ∨ Binds s after)
    (herror : s.state.isExecuted = true → bound = .error .alreadyExecuted ∨ call.needsFresh = false) :
    Shape s (s.bindingEvent call bound) := by
  cases hbound : bound with
  | ok after =>
    rcases hok after hbound with ⟨rfl, hfresh⟩ | hbinds
    · exact .still rfl rfl hexecute (fun _ => hfresh) hfetch
    · exact .binds hbinds rfl hexecute hfetch
  | error error =>
    cases hs : s.state.isExecuted with
    | false => exact .still rfl rfl hexecute (fun h => by simp [hs] at h) hfetch
    | true =>
      rcases herror hs with hlate | hfresh
      · rw [hlate] at hbound
        cases hbound
        exact .late hs rfl rfl rfl hfetch
      · exact .still rfl rfl hexecute (fun _ => hfresh) hfetch

lemma toStatementError_ne (e : DriverError) : e.toStatementError ≠ .notExecuted := by
  simp [DriverError.toStatementError]

lemma shape_fetchAll (s : DeferredStatement) (connection : RawConnection) (history : List Sent) :
    Shape s (s.event connection history .fetchAll) := by
  simp only [event, fetchAll]
  split
  · next h => exact .fetches rfl s.fetches rfl rfl (by simp [IsAnswered, h, Except.map])
  · next raw hstate hraw =>
    refine .fetches rfl (s.fetches + 1) rfl rfl ?_
    have hanswered : s.IsAnswered := .inr ⟨hstate, by simp [hraw]⟩
    cases raw.fetch s.fetches <;> simp [Except.map, Except.mapError, hanswered, toStatementError_ne]
  · next h1 h2 =>
    refine .fetches rfl s.fetches rfl rfl (iff_of_true rfl ?_)
    rintro (hskipped | ⟨hdelegated, hraw⟩)
    · exact h1 hskipped
    · obtain ⟨raw, hraw⟩ := Option.isSome_iff_exists.1 hraw
      exact h2 raw hdelegated hraw

/-- **What one call can do**, whatever the raw connection does. -/
theorem shape_event (s : DeferredStatement) (connection : RawConnection) (history : List Sent) (call : Call) :
    Shape s (s.event connection history call) := by
  cases call with
  | bind position binding =>
    refine shape_bindingEvent (by simp) (by simp) (fun after h => .inr (binds_bind h)) fun hs => .inl ?_
    rw [bind, if_pos hs]
  | bindNamed name binding =>
    refine shape_bindingEvent (by simp) (by simp) (fun after h => .inr (binds_bindNamed h)) fun hs => .inl ?_
    rw [bindNamed, if_pos hs]
  | bindAll values =>
    refine shape_bindingEvent (by simp) (by simp) (fun after h => ?_) fun hs => ?_
    · rcases binds_bindFrom h with ⟨rfl, rfl⟩ | hbinds
      · exact .inl ⟨rfl, rfl⟩
      · exact .inr hbinds
    · cases values with
      | nil => exact .inr rfl
      | cons value values =>
        left
        show (s.bind 1 ⟨value, none⟩ >>= fun bound => bound.bindFrom 2 values) = _
        rw [bind, if_pos hs]
        rfl
  | resolve => exact .still rfl rfl (by simp [event]) (fun _ => rfl) (by simp [event])
  | literalSql => exact .still rfl rfl (by simp [event]) (fun _ => rfl) (by simp [event])
  | execute values =>
    cases hs : s.state.isExecuted with
    | false => exact .executes values _ hs rfl rfl rfl rfl (executes_execute hs connection history values)
    | true =>
      rw [event, execute_of_isExecuted hs]
      exact .late hs rfl rfl rfl (by simp)
  | fetchAll => exact shape_fetchAll s connection history

@[simp] lemma before_event (s : DeferredStatement) (connection : RawConnection) (history : List Sent) (call : Call) :
    (s.event connection history call).before = s := by
  cases call <;> simp only [event, bindingEvent] <;> split <;> rfl

/-! ### what a call keeps -/

lemma isExecuted_inForce {s : DeferredStatement} (hs : s.state.isExecuted = false) (values : Option (List Value)) :
    (s.inForce values).state.isExecuted = false := by
  rcases values with - | (- | _)
  · exact hs
  · exact hs
  · rfl

lemma reaches_inForce {s : DeferredStatement} (hs : s.state.isExecuted = false) (values : Option (List Value)) :
    s.state.Reaches (s.inForce values).state := by
  rcases values with - | (- | _)
  · exact .refl _
  · exact .refl _
  · exact reaches_bound hs

lemma raw_inForce (s : DeferredStatement) (values : Option (List Value)) : (s.inForce values).raw = s.raw := by
  cases values <;> rfl

lemma reaches_of_not_isExecuted {s : DeferredStatement} (hs : s.state.isExecuted = false) {t : StatementState}
    (ht : t.isExecuted = true) : s.state.Reaches t := by
  cases h : s.state <;> cases t <;> simp_all [StatementState.isExecuted, StatementState.Reaches]

lemma not_isAnswered {s : DeferredStatement} (hs : s.state.isExecuted = false) : ¬ s.IsAnswered := by
  rintro (h | ⟨h, -⟩) <;> simp [h, StatementState.isExecuted] at hs

lemma Sound.of_not_isExecuted {s : DeferredStatement} (hs : s.state.isExecuted = false) (hraw : s.raw = none) :
    Sound s :=
  ⟨fun _ => hraw, fun h => by simp [h, StatementState.isExecuted] at hs⟩

lemma sound_fresh (sql : String) (skipsConstraints : Bool) : Sound (fresh sql skipsConstraints) :=
  .of_not_isExecuted rfl rfl

namespace Shape

variable {s : DeferredStatement} {e : Event}

lemma sound (h : Shape s e) (hs : Sound s) : Sound e.after := by
  cases h with
  | late _ _ after => exact after ▸ hs
  | still after => exact after ▸ hs
  | binds h => exact .of_not_isExecuted h.unexecuted (h.raw.trans (hs.raw h.fresh))
  | executes values execution hfresh _ _ after _ h =>
    rw [after]
    cases h with
    | refused error _ he =>
      rw [he]
      exact .of_not_isExecuted (isExecuted_inForce hfresh values) ((raw_inForce s values).trans (hs.raw hfresh))
    | skipped sql _ he =>
      rw [he]
      exact ⟨by simp [StatementState.isExecuted], by simp⟩
    | sent resolution text _ _ he =>
      exact ⟨by simp [he.state, StatementState.isExecuted], fun _ => ⟨he.positional, he.named⟩⟩
  | fetches _ fetches after =>
    rw [after]
    exact ⟨hs.raw, hs.cleared⟩

lemma reaches (h : Shape s e) : s.state.Reaches e.after.state := by
  cases h with
  | late _ _ after => exact after ▸ .refl _
  | still after => exact after ▸ .refl _
  | binds h => exact h.state
  | executes values execution hfresh _ _ after _ h =>
    rw [after]
    cases h with
    | refused error _ he => exact he ▸ reaches_inForce hfresh values
    | skipped sql _ he => exact he ▸ reaches_of_not_isExecuted hfresh rfl
    | sent resolution text _ _ he => exact he.state ▸ reaches_of_not_isExecuted hfresh rfl
  | fetches _ fetches after => exact after ▸ .refl _

/-- There are rows to fetch exactly from an execution that succeeds. -/
lemma isAnswered_iff (h : Shape s e) (hs : Sound s) : e.after.IsAnswered ↔ s.IsAnswered ∨ e.Succeeds := by
  cases h with
  | late _ result after => simp [after, Event.Succeeds, result]
  | still after _ execute => simp [after, Event.Succeeds, execute]
  | binds h _ execute =>
    simp [not_isAnswered h.unexecuted, not_isAnswered h.fresh, Event.Succeeds, execute]
  | executes values execution hfresh call result after _ h =>
    have hsucceeds : e.Succeeds ↔ execution.result = .ok () := by
      rw [Event.Succeeds, call, result]
      cases execution.result <;> simp [Except.map]
    rw [after, hsucceeds, or_iff_right (not_isAnswered hfresh)]
    cases h with
    | refused error _ he => simp [he, not_isAnswered (isExecuted_inForce hfresh values)]
    | skipped sql _ he => simp [he, IsAnswered]
    | sent resolution text _ _ he =>
      rcases he.outcome with ⟨hok, hraw⟩ | ⟨error, herror, hraw⟩
      · simp [IsAnswered, he.state, hok, hraw]
      · simp [IsAnswered, he.state, herror, hraw, raw_inForce, hs.raw hfresh]
  | fetches call fetches after =>
    have hsame : e.after.IsAnswered ↔ s.IsAnswered := by
      rw [after]
      rfl
    simp [hsame, Event.Succeeds, call]

/-- A text is sent by an execution, which resolved to it, and marks the statement as executed. -/
lemma of_sent (h : Shape s e) {text : Sent} (htext : e.sent = some text) :
    ∃ values resolution, e.call = .execute values ∧ s.state.isExecuted = false ∧
      (s.inForce values).resolve = .ok resolution ∧ resolution.sent? = some text ∧ e.after.state = .delegated := by
  cases h with
  | late _ _ _ sent => simp [sent] at htext
  | still _ sent => simp [sent] at htext
  | binds _ sent => simp [sent] at htext
  | fetches _ _ _ sent => simp [sent] at htext
  | executes values execution hfresh call _ after sent h =>
    rw [sent] at htext
    cases h with
    | refused error _ he => simp [he] at htext
    | skipped sql _ he => simp [he] at htext
    | sent resolution text' hresolve hsent he =>
      rw [he.sent] at htext
      exact ⟨values, resolution, call, hfresh, hresolve, hsent.trans htext, after ▸ he.state⟩

lemma of_execute (h : Shape s e) {values : Option (List Value)} (hcall : e.call = .execute values)
    (hs : s.state.isExecuted = false) :
    ∃ execution, Executes s values execution ∧ e.result = execution.result.map (fun _ => .done) ∧
      e.after = execution.statement ∧ e.sent = execution.sent := by
  cases h with
  | late hlate => simp [hs] at hlate
  | still _ _ execute => exact absurd hcall (execute _)
  | binds _ _ execute => exact absurd hcall (execute _)
  | fetches call => simp [call] at hcall
  | executes values' execution _ call result after sent h =>
    obtain rfl : values' = values := by simpa [call] using hcall
    exact ⟨execution, h, result, after, sent⟩

lemma of_resolve_eq_ok (h : Shape s e) {values : Option (List Value)} {resolution : Resolution}
    (hcall : e.call = .execute values) (hs : s.state.isExecuted = false)
    (hresolve : (s.inForce values).resolve = .ok resolution) :
    e.sent = resolution.sent? ∧ e.after.state.isExecuted = true ∧ (e.sent = none → e.result = .ok .done) := by
  obtain ⟨execution, hexecutes, result, after, sent⟩ := h.of_execute hcall hs
  rw [result, after, sent]
  cases hexecutes with
  | refused error hrefused => simp [hresolve] at hrefused
  | skipped sql hskipped he =>
    obtain rfl : resolution = .skip sql := by simpa [hresolve] using hskipped
    rw [he]
    exact ⟨rfl, rfl, fun _ => rfl⟩
  | sent resolution' text hsent htext he =>
    obtain rfl : resolution = resolution' := by simpa [hresolve] using hsent
    rw [he.sent, he.state, htext]
    exact ⟨rfl, rfl, fun hnone => by simp at hnone⟩

/-- Bindings that do not resolve are refused, and the statement can still be executed. -/
lemma of_resolve_eq_error (h : Shape s e) {values : Option (List Value)} {error : StatementError}
    (hcall : e.call = .execute values) (hs : s.state.isExecuted = false)
    (hresolve : (s.inForce values).resolve = .error error) :
    e.result = .error error ∧ e.sent = none ∧ e.after.state.isExecuted = false := by
  obtain ⟨execution, hexecutes, result, after, sent⟩ := h.of_execute hcall hs
  rw [result, after, sent]
  cases hexecutes with
  | refused error' hrefused he =>
    obtain rfl : error = error' := by simpa [hresolve] using hrefused
    rw [he]
    exact ⟨rfl, rfl, isExecuted_inForce hs values⟩
  | skipped sql hskipped => simp [hresolve] at hskipped
  | sent resolution text hsent => simp [hresolve] at hsent

lemma of_isExecuted (h : Shape s e) (hs : s.state.isExecuted = true) (hfresh : e.call.needsFresh = true) :
    e.result = .error .alreadyExecuted ∧ e.after = s ∧ e.sent = none := by
  cases h with
  | late _ result after sent => exact ⟨result, after, sent⟩
  | still _ _ _ fresh => simp [fresh hs] at hfresh
  | binds h => simp [h.fresh] at hs
  | executes _ _ hunused => simp [hunused] at hs
  | fetches call => simp [call, Call.needsFresh] at hfresh

lemma of_fetchAll (h : Shape s e) (hcall : e.call = .fetchAll) :
    e.result = .error .notExecuted ↔ ¬ s.IsAnswered := by
  cases h with
  | late _ _ _ _ fetch => exact absurd hcall fetch
  | still _ _ _ _ fetch => exact absurd hcall fetch
  | binds _ _ _ fetch => exact absurd hcall fetch
  | executes _ _ _ call => simp [call] at hcall
  | fetches _ _ _ _ result => exact result

end Shape

/-! ### runs -/

variable {s : DeferredStatement} {connection : RawConnection} {history : List Sent} {calls : List Call}

lemma shape_of_mem_run (hs : Sound s) {e : Event} (he : e ∈ s.run connection history calls) :
    Sound e.before ∧ Shape e.before e := by
  obtain ⟨before, history', call, hbefore, rfl⟩ :=
    exists_of_mem_run connection history hs (fun s _ _ h => (shape_event s _ _ _).sound h) he
  rw [before_event]
  exact ⟨hbefore, shape_event before _ _ _⟩

lemma sent_eq_none_of_isExecuted (hs : s.state.isExecuted = true) {e : Event}
    (he : e ∈ s.run connection history calls) : e.sent = none := by
  have hkeeps : ∀ (t : DeferredStatement) history call, t.state.isExecuted = true →
      (t.event connection history call).after.state.isExecuted = true := by
    intro t history call ht
    have hreaches := (shape_event t connection history call).reaches
    cases hstate : t.state <;> simp_all [StatementState.Reaches, StatementState.isExecuted]
  obtain ⟨before, history', call, hbefore, rfl⟩ := exists_of_mem_run connection history hs hkeeps he
  cases hsent : (before.event connection history' call).sent with
  | none => rfl
  | some text =>
    obtain ⟨_, _, -, hfresh, -⟩ := (shape_event _ _ _ _).of_sent hsent
    simp [hbefore] at hfresh

lemma length_sent_run_le_one : ((s.run connection history calls).filterMap Event.sent).length ≤ 1 := by
  induction calls generalizing s history with
  | nil => simp [run]
  | cons call calls ih =>
    rw [run, List.filterMap_cons]
    cases hsent : (s.event connection history call).sent with
    | none => exact ih
    | some text =>
      obtain ⟨_, _, -, -, -, -, hstate⟩ := (shape_event _ _ _ _).of_sent hsent
      have hrest : ((s.event connection history call).after.run connection (text :: history) calls).filterMap
          Event.sent = [] :=
        List.filterMap_eq_nil_iff.2 fun e he => sent_eq_none_of_isExecuted (by rw [hstate]; rfl) he
      simp [hrest]

lemma reaches_of_mem_run {e : Event} (he : e ∈ s.run connection history calls) :
    s.state.Reaches e.before.state ∧ s.state.Reaches e.after.state := by
  obtain ⟨before, history', call, hbefore, rfl⟩ := exists_of_mem_run (P := fun t => s.state.Reaches t.state)
    connection history (.refl _) (fun t _ _ h => h.trans (shape_event t _ _ _).reaches) he
  rw [before_event]
  exact ⟨hbefore, hbefore.trans (shape_event before _ _ _).reaches⟩

lemma pairwise_states_run :
    ((s.run connection history calls).flatMap fun e => [e.before.state, e.after.state]).Pairwise
      StatementState.Reaches := by
  induction calls generalizing s history with
  | nil => exact .nil
  | cons call calls ih =>
    have hstep := (shape_event s connection history call).reaches
    -- later states are reached from the one after the first event
    have hrest : ∀ t ∈ ((s.event connection history call).after.run connection
        ((s.event connection history call).sent.toList ++ history) calls).flatMap
          (fun e => [e.before.state, e.after.state]),
        (s.event connection history call).after.state.Reaches t := by
      intro t ht
      obtain ⟨e, he, ht⟩ := List.mem_flatMap.1 ht
      have hreaches := reaches_of_mem_run he
      rcases ht with - | ⟨-, - | ⟨-, ht⟩⟩
      · exact hreaches.1
      · exact hreaches.2
      · cases ht
    rw [run, List.flatMap_cons, List.cons_append, List.cons_append, List.nil_append, List.pairwise_cons,
      List.pairwise_cons, before_event]
    refine ⟨?_, hrest, ih⟩
    rintro t (- | ⟨-, ht⟩)
    · exact hstep
    · exact hstep.trans (hrest t ht)

/-- There are rows to fetch exactly when there were any at the start or a call has brought them since. -/
lemma isAnswered_run (hs : Sound s) {before after : List Event} {e : Event}
    (h : s.run connection history calls = before ++ e :: after) :
    e.before.IsAnswered ↔ s.IsAnswered ∨ ∃ d ∈ before, d.Succeeds := by
  induction before generalizing s history calls with
  | nil =>
    cases calls with
    | nil => simp [run] at h
    | cons call calls =>
      obtain ⟨rfl, -⟩ := List.cons.inj h
      simp
  | cons d before ih =>
    cases calls with
    | nil => simp [run] at h
    | cons call calls =>
      obtain ⟨rfl, htail⟩ := List.cons.inj h
      have hshape := shape_event s connection history call
      rw [ih (hshape.sound hs) htail, hshape.isAnswered_iff hs, or_assoc]
      simp only [List.mem_cons, exists_eq_or_imp]

/-- **A deferred statement is for single use**, whatever is called on it and whatever the raw connection does. -/
theorem singleUse_run (sql : String) (skipsConstraints : Bool) (connection : RawConnection) (history : List Sent)
    (calls : List Call) : SingleUse ((fresh sql skipsConstraints).run connection history calls) := by
  have hsound := sound_fresh sql skipsConstraints
  -- every event has a shape and comes upon a sound statement
  refine ⟨length_sent_run_le_one, pairwise_states_run, ?_, ?_, ?_, ?_, ?_, ?_⟩
  · intro e he text htext
    obtain ⟨values, resolution, hcall, hfresh, hresolve, hsent, -⟩ := (shape_of_mem_run hsound he).2.of_sent htext
    refine ⟨values, hcall, hfresh, ?_⟩
    rw [literalSql, hresolve, Resolution.sql_of_sent? hsent]
    rfl
  · intro e he values resolution hcall hfresh hresolve
    exact (shape_of_mem_run hsound he).2.of_resolve_eq_ok hcall hfresh hresolve
  · intro e he values error hcall hfresh hliteral
    refine (shape_of_mem_run hsound he).2.of_resolve_eq_error hcall hfresh ?_
    cases hresolve : (e.before.inForce values).resolve with
    | ok resolution => simp [literalSql, hresolve, Except.map] at hliteral
    | error error' => simpa [literalSql, hresolve, Except.map] using hliteral
  · intro e he hstate
    obtain ⟨hbefore, hshape⟩ := shape_of_mem_run hsound he
    exact (hshape.sound hbefore).cleared hstate
  · intro e he hexecuted hfresh
    exact (shape_of_mem_run hsound he).2.of_isExecuted hexecuted hfresh
  · intro before e after h hcall
    have he : e ∈ (fresh sql skipsConstraints).run connection history calls := by simp [h]
    have hunused : ¬ (fresh sql skipsConstraints).IsAnswered := not_isAnswered rfl
    rw [(shape_of_mem_run hsound he).2.of_fetchAll hcall, isAnswered_run hsound h]
    simp [hunused]

end DeferredStatement

end WarehouseSql
