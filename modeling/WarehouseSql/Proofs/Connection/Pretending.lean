import WarehouseSql.Proofs.Connection.Work

/-!
Pretending.  Some work is done with execution switched off, and the entries that it has made are given back
(`Connection.pretend`).  If no pretended work within it comes to an end and the log is not flushed, nothing is sent and
there is one entry for each statement (`pretend_of_plain`).  **What the two can do is told exactly by `pretend_exact`**:
the end of a pretended work switches execution on again, also for the rest of the work around it, and a flush takes
entries away from the front of what is given back.
-/

namespace WarehouseSql

open WarehouseSql.Action (on on_bind_of_ok on_bind_of_error)

/-! ### entries -/

def AllLogged (course : List Happening) : Prop := ∀ run, .ran run ∈ course → run.after.log ≠ run.before.log

/-- A flush takes away entries of a course that starts with some log: those before it, and those that come to stand in
the places of the log at the start. -/
def Loses (log : List LoggedQuery) (course : List Happening) : Prop :=
  ∃ earlier later, course = earlier ++ .flushed :: later ∧ (entries earlier ≠ [] ∨ log ≠ [] ∧ entries later ≠ [])

lemma entries_append (earlier later : List Happening) : entries (earlier ++ later) = entries earlier ++ entries later :=
  List.filterMap_append

lemma entries_cons_ran (run : StatementRun) (course : List Happening) :
    entries (.ran run :: course) = run.entry :: entries course :=
  List.filterMap_cons_some rfl

lemma entries_cons_flushed (course : List Happening) : entries (.flushed :: course) = entries course :=
  List.filterMap_cons_none rfl

lemma foldl_log_of_not_flushed {course : List Happening} (hlogged : AllLogged course) (hflush : .flushed ∉ course)
    (log : List LoggedQuery) : course.foldl Happening.log log = log ++ entries course := by
  induction course generalizing log with
  | nil => exact (List.append_nil log).symm
  | cons happening course ih =>
    have hrest := ih (fun run hrun => hlogged run (List.mem_cons_of_mem _ hrun))
      (fun h => hflush (List.mem_cons_of_mem _ h))
    cases happening with
    | ran run =>
      have hrun : Happening.log log (.ran run) = log ++ [run.entry] := if_neg (hlogged run List.mem_cons_self)
      rw [List.foldl_cons, hrun, hrest, entries_cons_ran, List.append_assoc, List.singleton_append]
    | flushed => exact absurd List.mem_cons_self hflush
    | suspended => exact hrest log
    | resumed => exact hrest log

/-- A log grows by no more entries than there are statements. -/
lemma length_foldl_log_le (course : List Happening) (log : List LoggedQuery) :
    (course.foldl Happening.log log).length ≤ log.length + (entries course).length := by
  induction course generalizing log with
  | nil => exact Nat.le_refl _
  | cons happening course ih =>
    have hrest := ih (Happening.log log happening)
    rw [List.foldl_cons]
    cases happening with
    | ran run =>
      have hrun : (Happening.log log (.ran run)).length ≤ log.length + 1 := by
        rw [Happening.log]
        split_ifs <;> simp
      rw [entries_cons_ran, List.length_cons]
      omega
    | flushed =>
      have hempty : (Happening.log log .flushed).length = 0 := rfl
      rw [entries_cons_flushed]
      omega
    | suspended => exact hrest
    | resumed => exact hrest

lemma length_foldl_log_lt {course : List Happening} (h : ¬ AllLogged course) (log : List LoggedQuery) :
    (course.foldl Happening.log log).length - log.length < (entries course).length := by
  obtain ⟨run, hrun, hsame⟩ : ∃ run, .ran run ∈ course ∧ run.after.log = run.before.log := by
    simpa [AllLogged] using h
  obtain ⟨earlier, later, rfl⟩ := List.append_of_mem hrun
  have hkept : Happening.log (earlier.foldl Happening.log log) (.ran run) = earlier.foldl Happening.log log :=
    if_pos hsame
  have hearlier := length_foldl_log_le earlier log
  have hlater := length_foldl_log_le later (earlier.foldl Happening.log log)
  rw [List.foldl_append, List.foldl_cons, hkept, entries_append, entries_cons_ran, List.length_append, List.length_cons]
  omega

lemma exists_last_of_mem {α : Type} {a : α} {items : List α} (h : a ∈ items) :
    ∃ earlier later, items = earlier ++ a :: later ∧ a ∉ later := by
  obtain ⟨before, after, hsplit, hlast⟩ := List.eq_append_cons_of_mem (List.mem_reverse.2 h)
  refine ⟨after.reverse, before.reverse, ?_, by simpa using hlast⟩
  rw [← List.reverse_reverse items, hsplit]
  simp

/-- **What stands in the log after its old entries are the entries of the course**, exactly if all statements make
theirs and no flush takes any away. -/
theorem drop_foldl_log_eq_iff (log : List LoggedQuery) (course : List Happening) :
    (course.foldl Happening.log log).drop log.length = entries course ↔ AllLogged course ∧ ¬ Loses log course := by
  by_cases hlogged : AllLogged course
  · by_cases hflush : .flushed ∈ course
    · -- what is left in the log was made after the last flush
      obtain ⟨earlier, later, rfl, hlast⟩ := exists_last_of_mem hflush
      have hlater : AllLogged later := fun run hrun => hlogged run (by simp [hrun])
      have hlog : (earlier ++ .flushed :: later).foldl Happening.log log = entries later := by
        rw [List.foldl_append, List.foldl_cons]
        exact foldl_log_of_not_flushed hlater hlast []
      rw [hlog, entries_append, entries_cons_flushed]
      constructor
      · intro hsame
        have hlength := congrArg List.length hsame
        rw [List.length_drop, List.length_append] at hlength
        have hearlier : entries earlier = [] := List.length_eq_zero_iff.1 (by omega)
        refine ⟨hlogged, ?_⟩
        rintro ⟨earlier', later', hsplit, hloses⟩
        -- any other flush comes before the last one
        have hearlier' : entries earlier' = [] := by
          rcases List.append_eq_append_iff.1 hsplit with ⟨middle, rfl, hmiddle⟩ | ⟨middle, rfl, hmiddle⟩
          · rcases middle with - | ⟨_, middle⟩
            · rw [List.append_nil]
              exact hearlier
            · obtain ⟨-, rfl⟩ := List.cons.inj hmiddle
              exact absurd (by simp) hlast
          · rw [entries_append] at hearlier
            exact (List.append_eq_nil_iff.1 hearlier).1
        have hlater' : entries later' = entries later := by
          have hentries := congrArg entries hsplit
          simpa [entries_append, entries_cons_flushed, hearlier, hearlier'] using hentries.symm
        rcases hloses with hloses | ⟨hsome, hloses⟩
        · exact hloses hearlier'
        · rw [hlater', ← List.length_pos_iff] at hloses
          rw [← List.length_pos_iff] at hsome
          omega
      · rintro ⟨-, hkeeps⟩
        have hearlier : entries earlier = [] := by
          by_contra hloses
          exact hkeeps ⟨earlier, later, rfl, .inl hloses⟩
        have hcases : log = [] ∨ entries later = [] := by
          by_contra hloses
          exact hkeeps ⟨earlier, later, rfl, .inr (not_or.1 hloses)⟩
        rw [hearlier, List.nil_append]
        rcases hcases with rfl | hlater
        · rfl
        · rw [hlater, List.drop_nil]
    · have hkeeps : ¬ Loses log course := by
        rintro ⟨earlier, later, rfl, -⟩
        exact hflush (by simp)
      rw [foldl_log_of_not_flushed hlogged hflush, List.drop_left]
      exact iff_of_true rfl ⟨hlogged, hkeeps⟩
  · -- an entry that is not made is missed in the length
    refine iff_of_false (fun hsame => ?_) fun h => hlogged h.1
    have hlength := congrArg List.length hsame
    rw [List.length_drop] at hlength
    have hlt := length_foldl_log_lt hlogged log
    omega

/-! ### pretended work -/

namespace Connection

/-- Pretends some work, and gives the entries that it has made. -/
def pretend (work : Action Unit) : Action (List LoggedQuery) := do
  let start := (← get).log.length
  whilePretending work
  return (← get).log.drop start

lemma on_pretend (work : Action Unit) (s : Session) :
    on (pretend work) s =
      ((on work { s with pretending := true }).1.map fun _ =>
          (on work { s with pretending := true }).2.log.drop s.log.length,
        { (on work { s with pretending := true }).2 with pretending := false }) := by
  refine (on_bind_of_ok (Action.on_get s)).trans ?_
  rw [Action.on_bind, on_whilePretending]
  cases (on work { s with pretending := true }).1 <;> rfl

/-- Steps one after another; the first failure ends them and is the failure of the whole. -/
def performAll (c : Connection) (steps : List Step) : Action Unit := do
  match (← c.performUntilError steps).getLast? with
  | some (.error error) => throw error
  | _ => return ()

lemma isWork_performAll (c : Connection) (steps : List Step) : IsWork c (c.performAll steps) := by
  refine (c.isWork_performUntilError steps).bind fun outcomes => ?_
  split
  · exact .fail _
  · exact .pure _

lemma exists_outcomes (c : Connection) (steps : List Step) (s : Session) :
    ∃ outcomes t, on (c.performUntilError steps) s = (.ok outcomes, t) := by
  induction steps generalizing s with
  | nil => exact ⟨[], s, rfl⟩
  | cons step steps ih =>
    have hstep := Action.on_attempt (c.perform step) s
    rw [performUntilError, on_bind_of_ok hstep]
    cases (on (c.perform step) s).1 with
    | error error => exact ⟨_, _, rfl⟩
    | ok reply =>
      obtain ⟨outcomes, t, houtcomes⟩ := ih (on (c.perform step) s).2
      exact ⟨_, _, on_bind_of_ok houtcomes⟩

/-- **A step that pretends steps pretends the work of these.** -/
theorem on_perform_pretend (c : Connection) (steps : List Step) (s : Session) :
    ∃ inner, on (c.perform (.pretend steps)) s =
      (.ok (.pretended inner (on (pretend (c.performAll steps)) s).1), (on (pretend (c.performAll steps)) s).2) := by
  obtain ⟨outcomes, t, houtcomes⟩ := c.exists_outcomes steps { s with pretending := true }
  have hinner : on (whilePretending (c.performUntilError steps)) s = (.ok outcomes, { t with pretending := false }) := by
    rw [on_whilePretending, houtcomes]
  have hwork : on (c.performAll steps) { s with pretending := true } = 
      ((match outcomes.getLast? with | some (.error error) => .error error | _ => .ok ()), t) := by
    refine (on_bind_of_ok houtcomes).trans ?_
    split <;> rfl
  refine ⟨outcomes, ?_⟩
  rw [perform, on_pretend, hwork]
  refine (on_bind_of_ok (Action.on_get s)).trans ((on_bind_of_ok hinner).trans
    ((on_bind_of_ok (Action.on_get _)).trans ?_))
  rw [Action.on_pure]
  rcases outcomes.getLast? with _ | (error | reply) <;> rfl

section Exact

variable {c : Connection} {work : Action Unit} {course : Session → List Happening}

lemma runs_of_mem (h : Work c work course) (s : Session) {run : StatementRun}
    (hrun : .ran run ∈ course { s with pretending := true }) : ∃ pretending, Course.Runs c pretending run := by
  obtain ⟨earlier, later, hsplit⟩ := List.append_of_mem hrun
  have hleads := h.leads { s with pretending := true }
  rw [hsplit] at hleads
  exact ⟨_, hleads.runs⟩

/-- Only statements that find execution switched on can be sent. -/
lemma sent_eq_iff (h : Work c work course) (s : Session) :
    (on (pretend work) s).2.sent = s.sent ↔
      ∀ run, .ran run ∈ course { s with pretending := true } → run.before.pretending = false →
        run.after.sent = run.before.sent := by
  rw [on_pretend]
  refine (h.leads { s with pretending := true }).sent_eq_iff.trans ?_
  refine forall₂_congr fun run hrun => ⟨fun hsame _ => hsame, fun hsame => ?_⟩
  cases hflag : run.before.pretending with
  | false => exact hsame hflag
  | true =>
    obtain ⟨_, hruns⟩ := runs_of_mem h s hrun
    exact (hruns.sound.pretended hflag).1

/-- Only statements that find execution switched on can make no entry. -/
lemma allLogged_iff (h : Work c work course) (s : Session) :
    AllLogged (course { s with pretending := true }) ↔
      ∀ run, .ran run ∈ course { s with pretending := true } → run.before.pretending = false →
        run.after.log ≠ run.before.log := by
  refine forall₂_congr fun run hrun => ⟨fun hlogs _ => hlogs, fun hlogs => ?_⟩
  cases hflag : run.before.pretending with
  | false => exact hlogs hflag
  | true =>
    obtain ⟨_, hruns⟩ := runs_of_mem h s hrun
    rw [(hruns.sound.pretended hflag).2]
    simp

lemma log_eq_entries_iff (h : Work c work course) {s : Session} {log : List LoggedQuery}
    (hlog : (on (pretend work) s).1 = .ok log) :
    log = entries (course { s with pretending := true }) ↔
      AllLogged (course { s with pretending := true }) ∧ ¬ Loses s.log (course { s with pretending := true }) := by
  rw [← drop_foldl_log_eq_iff, ← (h.leads { s with pretending := true }).log_eq]
  rw [on_pretend] at hlog
  cases houtcome : (on work { s with pretending := true }).1 with
  | error error => simp [houtcome, Except.map] at hlog
  | ok _ =>
    rw [houtcome] at hlog
    rw [← Except.ok.inj hlog]

lemma foldl_flag_of_not_resumed {earlier : List Happening} (h : .resumed ∉ earlier) :
    earlier.foldl Happening.flag true = true := by
  induction earlier with
  | nil => rfl
  | cons happening earlier ih =>
    have hrest := ih fun hmem => h (List.mem_cons_of_mem _ hmem)
    cases happening with
    | resumed => exact absurd List.mem_cons_self h
    | ran run => exact hrest
    | flushed => exact hrest
    | suspended => exact hrest

/-- Work that ends no pretended work and does not flush the log is not executed, and **there is one entry for each of
its statements**. -/
theorem pretend_of_plain (h : Work c work course) {s : Session}
    (hresumed : .resumed ∉ course { s with pretending := true })
    (hflushed : .flushed ∉ course { s with pretending := true }) :
    (on (pretend work) s).2.sent = s.sent ∧
      ∀ log, (on (pretend work) s).1 = .ok log → log = entries (course { s with pretending := true }) := by
  have hoff : ∀ run, .ran run ∈ course { s with pretending := true } → run.before.pretending ≠ false := by
    intro run hrun
    obtain ⟨earlier, later, hsplit⟩ := List.append_of_mem hrun
    have hleads := h.leads { s with pretending := true }
    rw [hsplit] at hleads hresumed
    rw [hleads.runs.flag, foldl_flag_of_not_resumed fun hmem => hresumed (List.mem_append_left _ hmem)]
    simp
  refine ⟨(sent_eq_iff h s).2 fun run hrun hon => absurd hon (hoff run hrun), fun log hlog => ?_⟩
  refine (log_eq_entries_iff h hlog).2 ⟨(allLogged_iff h s).2 fun run hrun hon => absurd hon (hoff run hrun), ?_⟩
  rintro ⟨earlier, later, hsplit, -⟩
  exact hflushed (hsplit ▸ by simp)

/-- **What comes of pretended work.**  Nothing is sent exactly if nothing is sent by the statements that find execution
switched on, which is so after the end of a pretended work within the work.  Execution is on afterwards.  What is given
back are the entries of all statements in order exactly if the statements that find execution switched on make theirs
and no flush takes any away. -/
theorem pretend_exact (h : Work c work course) (s : Session) :
    ((on (pretend work) s).2.sent = s.sent ↔
      ∀ run, .ran run ∈ course { s with pretending := true } → run.before.pretending = false →
        run.after.sent = run.before.sent) ∧
    (∀ earlier run later, course { s with pretending := true } = earlier ++ .ran run :: later →
      run.before.pretending = earlier.foldl Happening.flag true ∧
        ∃ sql bindings, c.entry sql bindings = .ok run.entry) ∧
    ((on (pretend work) s).2.pretending = s.pretending ↔ s.pretending = false) ∧
    ∀ log, (on (pretend work) s).1 = .ok log →
      (log = entries (course { s with pretending := true }) ↔
        (∀ run, .ran run ∈ course { s with pretending := true } → run.before.pretending = false →
          run.after.log ≠ run.before.log) ∧
        ¬ Loses s.log (course { s with pretending := true })) := by
  refine ⟨sent_eq_iff h s, ?_, ?_, fun log hlog => ?_⟩
  · intro earlier run later hsplit
    have hleads := h.leads { s with pretending := true }
    rw [hsplit] at hleads
    exact ⟨hleads.runs.flag, hleads.runs.entry⟩
  · rw [on_pretend]
    exact eq_comm
  · rw [← allLogged_iff h s]
    exact log_eq_entries_iff h hlog

theorem pretend_exact_delete :
    (on (pretend (statement ⟨{}, .willing⟩ "delete from t where id = ?" (.ofValues [.int 3]))) {}).2.sent = [] := by
  have hwork : Work ⟨{}, .willing⟩ (statement ⟨{}, .willing⟩ "delete from t where id = ?" (.ofValues [.int 3])) _ :=
    .bind (.run _ _) fun _ => .pure ()
  refine (pretend_exact hwork {}).1.2 fun run hrun hflag => ?_
  have hentry : entry ⟨{}, .willing⟩ "delete from t where id = ?" (.ofValues [.int 3]) =
      .ok ⟨"delete from t where id = ?", [.int 3], "delete from t where id = 3"⟩ := by
    decide +kernel
  rw [courseAfter_nil, List.append_nil, courseOfRun, hentry, List.mem_singleton, Happening.ran.injEq] at hrun
  rw [hrun] at hflag
  cases hflag

/-- The end of a pretended work switches execution on for the rest of the work around it. -/
theorem exists_statement_sent_pretending :
    ¬ ∀ (c : Connection) (steps : List Step) (s : Session), s.pretending = false →
      (on (c.perform (.pretend steps)) s).2.sent = s.sent := by
  intro h
  have hsent := h ⟨{}, .willing⟩ [.pretend [], .statement "delete from t" {}] {} rfl
  exact absurd hsent (by decide +kernel)

end Exact

end Connection

end WarehouseSql
