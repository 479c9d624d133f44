import WarehouseSql.Proofs.Connection.Accounting
import WarehouseSql.Proofs.Connection.Pretending

/-!
The query log after any work on a fresh connection.  It holds one entry for each statement that has been run since the
log was flushed last and that was pretended, or succeeded while the connection logged (`Course.logs_noted`).  **It holds
just the statements that succeeded outside of pretended work while the connection logged exactly if no other statement
has been noted since the last flush** (`Connection.log_optIn_iff`); pretended work leaves its entries behind, also where
logging has never been switched on (`Connection.exists_entry_left`).
-/

namespace WarehouseSql

open WarehouseSql.Action (on on_bind_of_ok)

/-! ### standing -/

/-- A statement that has been run, and how many pretended works were going on around it. -/
structure PlacedRun where
  depth : Nat
  run : StatementRun

/-- How many pretended works are going on, and what has been run since the log was flushed last. -/
structure Standing where
  depth : Nat := 0
  runs : List PlacedRun := []

namespace Standing

def after (standing : Standing) : Happening → Standing
  | .ran run => { standing with runs := standing.runs ++ [⟨standing.depth, run⟩] }
  | .flushed => { standing with runs := [] }
  | .suspended => { standing with depth := standing.depth + 1 }
  | .resumed => { standing with depth := standing.depth - 1 }

def ofCourse (course : List Happening) : Standing := course.foldl after {}

end Standing

/-- A statement succeeds in a run of it. -/
def StatementRun.Succeeds (c : Connection) (run : StatementRun) : Prop :=
  ∃ sql bindings result, c.entry sql bindings = .ok run.entry ∧
    on (c.run sql bindings) run.before = (.ok result, run.after)

namespace PlacedRun

/-- The statement succeeds outside of pretended work, while the connection logs. -/
def IsOptedIn (c : Connection) (r : PlacedRun) : Prop :=
  r.depth = 0 ∧ r.run.before.logging = true ∧ r.run.Succeeds c

/-- The statement is pretended, or succeeds while the connection logs. -/
def IsNoted (c : Connection) (r : PlacedRun) : Prop :=
  r.run.before.pretending = true ∨ r.run.before.logging = true ∧ r.run.Succeeds c

end PlacedRun

/-- A log with one entry for each run of which something holds, in order, and no other entry. -/
inductive Logs (P : PlacedRun → Prop) : List PlacedRun → List LoggedQuery → Prop
  | nil : Logs P [] []
  | noted {r : PlacedRun} {rest : List PlacedRun} {log : List LoggedQuery} (h : P r) (hrest : Logs P rest log) :
      Logs P (r :: rest) (r.run.entry :: log)
  | unnoted {r : PlacedRun} {rest : List PlacedRun} {log : List LoggedQuery} (h : ¬ P r) (hrest : Logs P rest log) :
      Logs P (r :: rest) log

namespace Logs

variable {P Q : PlacedRun → Prop} {runs later : List PlacedRun} {log log' : List LoggedQuery}

lemma append (h : Logs P runs log) (hlater : Logs P later log') : Logs P (runs ++ later) (log ++ log') := by
  induction h with
  | nil => exact hlater
  | noted hr _ ih => exact .noted hr ih
  | unnoted hr _ ih => exact .unnoted hr ih

lemma congr (h : Logs P runs log) (hPQ : ∀ r ∈ runs, P r ↔ Q r) : Logs Q runs log := by
  induction h with
  | nil => exact .nil
  | noted hr _ ih =>
    exact .noted ((hPQ _ List.mem_cons_self).1 hr) (ih fun r hr => hPQ r (List.mem_cons_of_mem _ hr))
  | unnoted hr _ ih =>
    exact .unnoted (mt (hPQ _ List.mem_cons_self).2 hr) (ih fun r hr => hPQ r (List.mem_cons_of_mem _ hr))

/-- A stricter condition notes no more runs, and fewer ones if it is not met by all that are noted. -/
lemma length_le (h : Logs P runs log) (h' : Logs Q runs log') (hQP : ∀ r ∈ runs, Q r → P r) :
    log'.length ≤ log.length ∧ (log'.length = log.length → ∀ r ∈ runs, P r → Q r) := by
  induction h generalizing log' with
  | nil =>
    cases h'
    exact ⟨Nat.le_refl _, fun _ => by simp⟩
  | @noted r rest log hr _ ih =>
    have hQP' : ∀ r ∈ rest, Q r → P r := fun r hr => hQP r (List.mem_cons_of_mem _ hr)
    cases h' with
    | noted hQ hrest =>
      obtain ⟨hle, heq⟩ := ih hrest hQP'
      refine ⟨by simpa using hle, fun hlength => ?_⟩
      exact List.forall_mem_cons.2 ⟨fun _ => hQ, heq (by simpa using hlength)⟩
    | unnoted hQ hrest =>
      -- the longer log has an entry more, so that the lengths differ
      obtain ⟨hle, -⟩ := ih hrest hQP'
      refine ⟨Nat.le_succ_of_le hle, fun hlength => ?_⟩
      rw [List.length_cons] at hlength
      omega
  | @unnoted r rest log hr _ ih =>
    cases h' with
    | noted hQ hrest => exact absurd (hQP _ List.mem_cons_self hQ) hr
    | unnoted hQ hrest =>
      obtain ⟨hle, heq⟩ := ih hrest fun r hr => hQP r (List.mem_cons_of_mem _ hr)
      exact ⟨hle, fun hlength => List.forall_mem_cons.2 ⟨fun hP => absurd hP hr, heq hlength⟩⟩

/-- **A log is that of a stricter condition exactly if all that is noted meets it.** -/
theorem iff_of_imp (h : Logs P runs log) (hQP : ∀ r ∈ runs, Q r → P r) :
    Logs Q runs log ↔ ∀ r ∈ runs, P r → Q r :=
  ⟨fun h' => (h.length_le h' hQP).2 rfl, fun hPQ => h.congr fun r hr => ⟨hPQ r hr, hQP r hr⟩⟩

end Logs

/-! ### what is noted -/

namespace Course

variable {c : Connection} {s t : Session} {course : List Happening}

/-- A run makes its entry exactly if it is noted. -/
lemma log_of_run {run : StatementRun} {sql : String} {bindings : Bindings}
    (hentry : c.entry sql bindings = .ok run.entry) (hafter : run.after = (on (c.run sql bindings) run.before).2)
    (depth : Nat) :
    (PlacedRun.IsNoted c ⟨depth, run⟩ ∧ run.after.log = run.before.log ++ [run.entry]) ∨
      (¬ PlacedRun.IsNoted c ⟨depth, run⟩ ∧ run.after.log = run.before.log) := by
  have hsound := sound hentry hafter
  by_cases hnoted : PlacedRun.IsNoted c ⟨depth, run⟩
  · refine .inl ⟨hnoted, ?_⟩
    rcases hnoted with hflag | ⟨hlogging, sql', bindings', result, -, hrun⟩
    · exact (hsound.pretended hflag).2
    · -- a success while the connection logs cannot leave the log as it was
      refine hsound.log.resolve_left fun hsame => ?_
      obtain ⟨_, haccount⟩ := c.accounted sql' bindings' run.before
      obtain ⟨literal, hlog, -⟩ := haccount.logged result (congrArg Prod.fst hrun)
        (by rw [show run.before.logging = true from hlogging, Bool.or_true])
      rw [hrun, hsame] at hlog
      simp at hlog
  · refine .inr ⟨hnoted, ?_⟩
    obtain ⟨hflag, hquiet⟩ := not_or.1 hnoted
    obtain ⟨_, haccount⟩ := c.accounted sql bindings run.before
    rw [hafter]
    refine haccount.unlogged ?_
    cases houtcome : (on (c.run sql bindings) run.before).1 with
    | error error => exact .inl ⟨error, rfl⟩
    | ok result =>
      have hlogging : ¬ run.before.logging = true := fun hlogging =>
        hquiet ⟨hlogging, sql, bindings, result, hentry, Prod.ext houtcome hafter.symm⟩
      refine .inr ?_
      rw [Bool.eq_false_iff.2 hlogging, Bool.or_false]
      exact Bool.eq_false_iff.2 hflag

/-- **The log notes just what is pretended or succeeds while the connection logs**, since it was flushed last. -/
theorem logs_noted (h : Course c s course t) {standing : Standing}
    (hs : Logs (PlacedRun.IsNoted c) standing.runs s.log) :
    Logs (PlacedRun.IsNoted c) (course.foldl Standing.after standing).runs t.log := by
  induction h generalizing standing with
  | done => exact hs
  | ran sql bindings hentry hafter _ ih =>
    refine ih ?_
    rcases log_of_run hentry hafter standing.depth with ⟨hnoted, hlog⟩ | ⟨hnoted, hlog⟩
    · rw [hlog]
      exact hs.append (.noted hnoted .nil)
    · rw [hlog, ← List.append_nil (StatementRun.before _).log]
      exact hs.append (.unnoted hnoted .nil)
  | flushed _ ih => exact ih .nil
  | suspended _ ih => exact ih hs
  | resumed _ ih => exact ih hs
  | logging flag _ ih => exact ih hs

/-- **A statement outside of pretended work is not pretended.** -/
theorem live_of_outside (h : Course c s course t) {standing : Standing}
    (hs : standing.depth = 0 → s.pretending = false)
    (hruns : ∀ r ∈ standing.runs, r.depth = 0 → r.run.before.pretending = false) :
    ((course.foldl Standing.after standing).depth = 0 → t.pretending = false) ∧
      ∀ r ∈ (course.foldl Standing.after standing).runs, r.depth = 0 → r.run.before.pretending = false := by
  induction h generalizing standing with
  | done => exact ⟨hs, hruns⟩
  | ran sql bindings hentry hafter _ ih =>
    refine ih (fun hdepth => (sound hentry hafter).pretending.trans (hs hdepth)) fun r hr => ?_
    rcases List.mem_append.1 hr with hr | hr
    · exact hruns r hr
    · rw [List.mem_singleton.1 hr]
      exact hs
  | flushed _ ih => exact ih hs (by simp [Standing.after])
  | suspended _ ih => exact ih (by simp [Standing.after]) hruns
  | resumed _ ih => exact ih (fun _ => rfl) hruns
  | logging flag _ ih => exact ih hs hruns

end Course

/-- All pretended works within some work come to an end. -/
lemma Work.depth_eq {c : Connection} {α : Type} {action : Action α} {course : Session → List Happening}
    (h : Work c action course) (s : Session) (standing : Standing) :
    ((course s).foldl Standing.after standing).depth = standing.depth := by
  induction h generalizing s standing with
  | pure a => rfl
  | fail error => rfl
  | read => rfl
  | run sql bindings =>
    rw [Connection.courseOfRun]
    cases c.entry sql bindings <;> rfl
  | setLogging flag => rfl
  | flushLog => rfl
  | bind h hnext ih ihnext =>
    rw [List.foldl_append, ← ih s standing]
    rcases on _ s with ⟨error | a, t⟩
    · rfl
    · exact ihnext a t _
  | attempt h ih => exact ih s standing
  | whilePretending h ih =>
    dsimp only
    rw [List.cons_append, List.foldl_cons, List.foldl_append]
    exact congrArg (· - 1) (ih _ _)

namespace Connection

variable {c : Connection} {work : Action Unit} {course : Session → List Happening}

/-- Outside of pretended work just what is opted in is noted. -/
lemma isOptedIn_iff {r : PlacedRun} (hlive : r.depth = 0 → r.run.before.pretending = false) :
    r.IsOptedIn c ↔ r.depth = 0 ∧ r.IsNoted c := by
  refine and_congr_right fun hdepth => ?_
  rw [PlacedRun.IsNoted, hlive hdepth]
  simp

/-- **The query log is opt-in exactly if nothing else has been noted since the last flush.**  After any work on a fresh
connection no pretended work is going on; the log has one entry for each statement since its last flush that was
pretended, or succeeded while the connection logged; and these are just the statements that succeeded outside of
pretended work while the connection logged exactly if, of those within pretended work, none found execution switched off
and none succeeded while the connection logged. -/
theorem log_optIn_iff (h : Work c work course) :
    (Standing.ofCourse (course {})).depth = 0 ∧ (on work {}).2.pretending = false ∧
    Logs (PlacedRun.IsNoted c) (Standing.ofCourse (course {})).runs (on work {}).2.log ∧
    (∀ r ∈ (Standing.ofCourse (course {})).runs, r.depth = 0 → r.run.before.pretending = false) ∧
    (Logs (PlacedRun.IsOptedIn c) (Standing.ofCourse (course {})).runs (on work {}).2.log ↔
      ∀ r ∈ (Standing.ofCourse (course {})).runs, 0 < r.depth →
        r.run.before.pretending = false ∧ ¬ (r.run.before.logging = true ∧ r.run.Succeeds c)) := by
  have hleads := h.leads {}
  have hdepth : (Standing.ofCourse (course {})).depth = 0 := h.depth_eq {} {}
  have hnoted : Logs (PlacedRun.IsNoted c) (Standing.ofCourse (course {})).runs (on work {}).2.log :=
    hleads.logs_noted .nil
  obtain ⟨hend, hlive⟩ : ((Standing.ofCourse (course {})).depth = 0 → (on work {}).2.pretending = false) ∧
      ∀ r ∈ (Standing.ofCourse (course {})).runs, r.depth = 0 → r.run.before.pretending = false :=
    hleads.live_of_outside (fun _ => rfl) (by simp)
  refine ⟨hdepth, hend hdepth, hnoted, hlive, ?_⟩
  rw [hnoted.iff_of_imp fun r hr hopted => ((isOptedIn_iff (hlive r hr)).1 hopted).2]
  refine forall₂_congr fun r hr => ?_
  rw [isOptedIn_iff (hlive r hr), Nat.pos_iff_ne_zero, ← Bool.not_eq_true, ← not_or]
  exact ⟨fun hin hdepth hnoted => hdepth (hin hnoted).1, fun hout hnoted =>
    ⟨not_not.1 fun hdepth => hout hdepth hnoted, hnoted⟩⟩

theorem log_optIn_iff_selectTwo :
    ∃ course, Work ⟨{}, .willing⟩
        (do setLogging true; statement ⟨{}, .willing⟩ "select ?" (.ofValues [.int 2])) course ∧
      Logs (PlacedRun.IsOptedIn ⟨{}, .willing⟩) (Standing.ofCourse (course {})).runs
        [⟨"select ?", [.int 2], "select 2"⟩] := by
  have hwork : Work ⟨{}, .willing⟩
      (do setLogging true; statement ⟨{}, .willing⟩ "select ?" (.ofValues [.int 2])) _ :=
    .bind (.setLogging true) fun _ => .bind (.run _ _) fun _ => .pure ()
  have hentry : entry ⟨{}, .willing⟩ "select ?" (.ofValues [.int 2]) = .ok ⟨"select ?", [.int 2], "select 2"⟩ := by
    decide +kernel
  have hset : on (setLogging true) {} = (.ok (), { logging := true }) := rfl
  obtain ⟨-, -, -, -, hiff⟩ := log_optIn_iff hwork
  have hlog : (on (do setLogging true; statement ⟨{}, .willing⟩ "select ?" (.ofValues [.int 2])) {}).2.log =
      [⟨"select ?", [.int 2], "select 2"⟩] := by
    decide +kernel
  rw [hlog] at hiff
  refine ⟨_, hwork, hiff.2 fun r hr hdepth => ?_⟩
  simp only [hset, courseAfter_ok, courseAfter_nil, courseOfRun, hentry] at hr
  have hplace : r = ⟨0, _⟩ := List.mem_singleton.1 hr
  exact absurd hdepth (by rw [hplace]; decide)

/-- Pretended work leaves its entry in the log of a connection that never logs. -/
theorem exists_entry_left :
    ¬ ∀ (c : Connection) (work : Action Unit) (course : Session → List Happening), Work c work course →
      Logs (PlacedRun.IsOptedIn c) (Standing.ofCourse (course {})).runs (on work {}).2.log := by
  intro h
  have hwork : Work ⟨{}, .willing⟩ (whilePretending (statement ⟨{}, .willing⟩ "select 1" {})) _ :=
    .whilePretending (.bind (.run _ _) fun _ => .pure ())
  have hentry : entry ⟨{}, .willing⟩ "select 1" {} = .ok ⟨"select 1", [], "select 1"⟩ := by decide +kernel
  have hlog : (on (whilePretending (statement ⟨{}, .willing⟩ "select 1" {})) {}).2.log =
      [⟨"select 1", [], "select 1"⟩] := by
    decide +kernel
  have hlogs := h _ _ _ hwork
  rw [hlog, courseAfter_nil, courseOfRun, hentry] at hlogs
  cases hlogs with
  | noted hopted _ => exact absurd hopted.1 Nat.one_ne_zero
  | unnoted _ hrest => cases hrest

end Connection

end WarehouseSql
