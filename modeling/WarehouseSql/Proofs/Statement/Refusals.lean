import WarehouseSql.Proofs.Statement.Given

/-!
Executions that are refused: they fail before anything is handed to the raw connection.  An execution is refused
exactly if the bindings in force do not resolve (`DeferredStatement.isRefused_iff`).  **It leaves no trace but the
values that it was given** (`refused_leaves_values`): these have taken the place of the positional bindings, are in force
at every position that is not bound again, and so can be sent by a later execution (`exists_refused_value_sent`).
-/

namespace WarehouseSql

/-- Whether an error says that the bindings do not fit the markers. -/
def StatementError.isMismatch : StatementError → Bool
  | .bindingArity _ _ => true
  | .missingNamed _ => true
  | .unusedNamed _ => true
  | .mixedPlaceholders => true
  | .invalidPosition _ => false
  | .alreadyExecuted => false
  | .notExecuted => false
  | .driver _ _ => false

namespace DeferredStatement

/-- An execution fails before anything is handed to the raw connection. -/
def Execution.IsRefused (e : Execution) (error : StatementError) : Prop := e.result = .error error ∧ e.sent = none

/-! ### when an execution is refused -/

lemma isMismatch_of_positionalLiterals {s : DeferredStatement} {t : Template} {error : StatementError}
    (h : s.positionalLiterals t = .error error) : error.isMismatch = true := by
  simp only [positionalLiterals] at h
  split at h
  · split at h <;> cases h
    rfl
  · split at h
    · cases h
      rfl
    · split at h <;> cases h
      rfl

lemma isMismatch_of_namedLiterals {s : DeferredStatement} {t : Template} {error : StatementError}
    (h : s.namedLiterals t = .error error) : error.isMismatch = true := by
  rw [namedLiterals] at h
  split at h <;> cases h <;> rfl

/-- Bindings that do not resolve do not fit the markers. -/
lemma isMismatch_of_resolve {s : DeferredStatement} {error : StatementError} (h : s.resolve = .error error) :
    error.isMismatch = true := by
  cases hmarkers : s.template.hasMarkers with
  | false =>
    rw [resolve_of_not_hasMarkers hmarkers] at h
    split_ifs at h
    cases h
    rfl
  | true =>
    rw [resolve_of_hasMarkers hmarkers] at h
    split_ifs at h
    · cases h
      rfl
    · cases hpositional : s.positionalLiterals s.template with
      | error mismatch =>
        simp only [hpositional] at h
        cases h
        exact isMismatch_of_positionalLiterals hpositional
      | ok positional =>
        cases hnamed : s.namedLiterals s.template with
        | error mismatch =>
          simp only [hpositional, hnamed] at h
          cases h
          exact isMismatch_of_namedLiterals hnamed
        | ok named => simp [hpositional, hnamed] at h

variable {s : DeferredStatement}

/-- What an execution that is refused leaves is the statement with the bindings in force. -/
lemma execute_of_resolve_eq_error (hs : s.state.isExecuted = false) {values : Option (List Value)}
    {error : StatementError} (h : (s.inForce values).resolve = .error error) (connection : RawConnection)
    (history : List Sent) : s.execute connection history values = ⟨.error error, s.inForce values, none⟩ := by
  rw [execute_eq hs, h]

/-- **An execution is refused exactly if the bindings in force do not resolve**, and with the same error. -/
theorem isRefused_iff (hs : s.state.isExecuted = false) (connection : RawConnection) (history : List Sent)
    (values : Option (List Value)) (error : StatementError) :
    (s.execute connection history values).IsRefused error ↔ (s.inForce values).resolve = .error error := by
  constructor
  · rintro ⟨hresult, hsent⟩
    rcases executes_execute hs connection history values with ⟨mismatch, h, he⟩ | ⟨sql, h, he⟩ | ⟨_, text, _, _, he⟩
    · rw [he] at hresult
      cases hresult
      exact h
    · rw [he] at hresult
      cases hresult
    · rw [he.sent] at hsent
      cases hsent
  · intro h
    rw [execute_of_resolve_eq_error hs h]
    exact ⟨rfl, rfl⟩

/-! ### what it leaves -/

lemma pairwise_numbered (start : Nat) (values : List Value) : (numbered start values).Pairwise (·.1 < ·.1) := by
  have hlow : ∀ (values : List Value) (start : Nat), ∀ entry ∈ numbered start values, start ≤ entry.1 := by
    intro values
    induction values with
    | nil => simp [numbered]
    | cons value values ih =>
      intro start entry hentry
      rcases List.mem_cons.1 hentry with rfl | hentry
      · exact Nat.le_refl _
      · exact Nat.le_of_succ_le (ih (start + 1) entry hentry)
  induction values generalizing start with
  | nil => exact .nil
  | cons value values ih => exact .cons (fun entry hentry => hlow values (start + 1) entry hentry) (ih (start + 1))

lemma lookup_numbered (start index : Nat) (values : List Value) :
    (numbered start values).lookup (start + index) = values[index]?.map fun value => ⟨value, none⟩ := by
  induction values generalizing start index with
  | nil => rfl
  | cons value values ih =>
    rw [numbered, lookup_cons_eq_ite]
    cases index with
    | zero => simp
    | succ index =>
      have hnext : start + (index + 1) = start + 1 + index := by omega
      rw [if_neg (by omega), hnext, ih, List.getElem?_cons_succ]

/-- The bindings in force are the bindings as they are exactly if no values are given, or values that are bound
already. -/
lemma inForce_eq_self_iff (s : DeferredStatement) (values : Option (List Value)) :
    s.inForce values = s ↔
      ∀ given, values = some given → s.positional = numbered 1 given ∧ (given ≠ [] → s.state = .bound) := by
  cases values with
  | none => simp [inForce]
  | some given =>
    have hstate : s.stateAfter given = s.state ↔ (given ≠ [] → s.state = .bound) := by
      cases given with
      | nil => simp [stateAfter]
      | cons value given => simp [stateAfter, eq_comm]
    have hself : s.inForce (some given) = s ↔ s.positional = numbered 1 given ∧ s.stateAfter given = s.state := by
      constructor
      · exact fun h => ⟨(congrArg positional h).symm, congrArg state h⟩
      · rintro ⟨hpositional, hsame⟩
        rw [inForce, hsame, ← hpositional]
    simp [hself, hstate]

lemma lastFor_append {κ : Type} [BEq κ] (key : κ) (earlier later : List (κ × Binding)) :
    lastFor key (earlier ++ later) = (lastFor key later).or (lastFor key earlier) := by
  rw [lastFor, List.reverse_append, List.lookup_append, lastFor, lastFor]

/-- Values bound in place of the positional ones are in force wherever no value is bound later. -/
lemma lookup_of_foldlM_give {values : List Value} {calls : List BindCall} {t : DeferredStatement}
    (h : calls.foldlM give (s.inForce (some values)) = .ok t) :
    (∀ index, t.positional.lookup (index + 1) =
      (givenAt calls (index + 1)).or (values[index]?.map fun value => ⟨value, none⟩)) ∧
    ∀ name, t.named.lookup name = (givenTo calls name).or (s.named.lookup name) := by
  have hstart : Holds s.sql s.skipsConstraints (numbered 1 values).reverse s.named.reverse (s.inForce (some values)) :=
    ⟨rfl, rfl, pairwise_numbered 1 values, fun k => by rw [lastFor, List.reverse_reverse]; rfl,
      fun name => by rw [lastFor, List.reverse_reverse]; rfl⟩
  have hholds := hstart.foldlM_give h
  refine ⟨fun index => ?_, fun name => ?_⟩
  · rw [hholds.position, lastFor_append, givenAt, lastFor, lastFor, List.reverse_reverse, Nat.add_comm index 1,
      lookup_numbered]
  · rw [hholds.name, lastFor_append, givenTo, lastFor, lastFor, List.reverse_reverse]

/-- What an execution that is refused leaves of a statement: all of it but the positional bindings, and in place of
these the values that it was given. -/
structure KeepsOnlyValues (s : DeferredStatement) (values : Option (List Value)) (error : StatementError)
    (after : DeferredStatement) : Prop where
  mismatch : error.isMismatch = true
  named : after.named = s.named
  rest : after.sql = s.sql ∧ after.skipsConstraints = s.skipsConstraints ∧ after.raw = s.raw ∧
    after.fetches = s.fetches
  /-- Without values the call has left no trace. -/
  untouched : values = none → after = s
  /-- Values are there as if they had been bound and the execution had not been tried. -/
  bound : ∀ given, values = some given → { s with positional := [] }.bindAll given = .ok after
  positional : ∀ given, values = some given → after.positional = numbered 1 given
  state : ∀ given, values = some given → after.state = if given.isEmpty then s.state else .bound
  traceless : after = s ↔
    ∀ given, values = some given → s.positional = numbered 1 given ∧ (given ≠ [] → s.state = .bound)
  /-- Until something is bound, it does not resolve and every further execution is refused in the same way. -/
  again : after.resolve = .error error ∧
    ∀ connection history, after.execute connection history none = ⟨.error error, after, none⟩
  /-- A value that was given stays in force at its position until another one is bound there. -/
  later : ∀ given, values = some given → ∀ calls t, calls.foldlM give after = .ok t →
    (∀ index, t.positional.lookup (index + 1) =
      (givenAt calls (index + 1)).or (given[index]?.map fun value => ⟨value, none⟩)) ∧
    ∀ name, t.named.lookup name = (givenTo calls name).or (s.named.lookup name)

/-- **An execution that is refused leaves no trace but the values that it was given.** -/
theorem refused_leaves_values (hs : s.state.isExecuted = false) (connection : RawConnection) (history : List Sent)
    (values : Option (List Value)) (error : StatementError)
    (h : (s.execute connection history values).IsRefused error) :
    KeepsOnlyValues s values error (s.execute connection history values).statement := by
  have hresolve := (isRefused_iff hs connection history values error).1 h
  have hinForce := isExecuted_inForce hs values
  have hagain : ((s.inForce values).inForce none).resolve = .error error := hresolve
  rw [execute_of_resolve_eq_error hs hresolve]
  exact {
    mismatch := isMismatch_of_resolve hresolve
    named := by cases values <;> rfl
    rest := by cases values <;> exact ⟨rfl, rfl, rfl, rfl⟩
    untouched := fun hnone => hnone ▸ rfl
    bound := fun given hgiven => hgiven ▸ bindAll_eq hs given
    positional := fun given hgiven => hgiven ▸ rfl
    state := fun given hgiven => by
      subst hgiven
      cases given <;> rfl
    traceless := inForce_eq_self_iff s values
    again := ⟨hresolve, execute_of_resolve_eq_error hinForce hagain⟩
    later := fun given hgiven calls t ht => by
      subst hgiven
      exact lookup_of_foldlM_give ht }

/-- A statement with one of its two names bound. -/
def roomThree : DeferredStatement :=
  { fresh "select :room, '?', :guest" false with named := [("room", ⟨.text "3", none⟩)], state := .bound }

theorem refused_leaves_values_roomThree :
    roomThree.state.isExecuted = false ∧
      (roomThree.execute deadConnection [] (some [.int 5])).IsRefused (.bindingArity 0 1) ∧
        KeepsOnlyValues roomThree (some [.int 5]) (.bindingArity 0 1)
          { roomThree with positional := [(1, ⟨.int 5, none⟩)] } := by
  have hresolve : (roomThree.inForce (some [.int 5])).resolve = .error (.bindingArity 0 1) := by decide +kernel
  have hexecute := execute_of_resolve_eq_error rfl hresolve deadConnection []
  have hrefused := (isRefused_iff rfl deadConnection [] _ _).2 hresolve
  have hkeeps := refused_leaves_values rfl deadConnection [] _ _ hrefused
  rw [hexecute] at hkeeps
  exact ⟨rfl, hrefused, hkeeps⟩

/-- A value that was refused is sent by a later execution. -/
theorem exists_refused_value_sent :
    ¬ ∀ (s : DeferredStatement) (connection : RawConnection) (history : List Sent) (values : Option (List Value))
        (error : StatementError), s.state.isExecuted = false →
      (s.execute connection history values).IsRefused error →
        let after := (s.execute connection history values).statement
        (after.positional = s.positional ∧ after.named = s.named ∧ after.state = s.state) ∧
          ∀ calls, (after.run connection history calls).map Event.sent =
            (s.run connection history calls).map Event.sent := by
  intro h
  have hrefused : ((fresh "select ?, ?" false).execute deadConnection [] (some [.int 1])).IsRefused
      (.bindingArity 2 1) := ⟨by decide +kernel, by decide +kernel⟩
  have hsent := (h _ deadConnection [] _ _ rfl hrefused).2 [.bind 2 ⟨.int 5, none⟩, .execute none]
  exact absurd hsent (by decide +kernel)

end DeferredStatement

end WarehouseSql
