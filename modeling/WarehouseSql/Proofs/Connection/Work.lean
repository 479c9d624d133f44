import WarehouseSql.Proofs.Connection.Running

/-!
Work on a connection: whatever can be put together from its calls, where a call may depend on the outcomes before it and
may follow a failure (`Work`).  Work has a course, the list of what happens to the session in it, and **the course leads
from the session before to the session after** (`Work.leads`).  **Every step of a connection is work**
(`isWork_perform`), the nested ones included.
-/

namespace WarehouseSql

open WarehouseSql.Action (on on_bind)

/-! ### happenings -/

/-- A statement that has been run: its entry, and the session before and after it. -/
structure StatementRun where
  entry : LoggedQuery
  before : Session
  after : Session

inductive Happening where
  | ran (run : StatementRun)
  | flushed
  | suspended
  | resumed

namespace Happening

/-- Whether execution is off after something has happened. -/
def flag (pretending : Bool) : Happening → Bool
  | .ran _ => pretending
  | .flushed => pretending
  | .suspended => true
  | .resumed => false

def log (log : List LoggedQuery) : Happening → List LoggedQuery
  | .ran run => if run.after.log = run.before.log then log else log ++ [run.entry]
  | .flushed => []
  | .suspended => log
  | .resumed => log

def entry? : Happening → Option LoggedQuery
  | .ran run => some run.entry
  | .flushed => none
  | .suspended => none
  | .resumed => none

end Happening

def entries (course : List Happening) : List LoggedQuery := course.filterMap Happening.entry?

/-- What a run does to a session: pretending, it makes its entry; otherwise it may send a text and make its entry. -/
structure StatementRun.Sound (run : StatementRun) : Prop where
  pretending : run.after.pretending = run.before.pretending
  log : run.after.log = run.before.log ∨ run.after.log = run.before.log ++ [run.entry]
  sent : run.before.sent <:+ run.after.sent
  pretended : run.before.pretending = true →
    run.after.sent = run.before.sent ∧ run.after.log = run.before.log ++ [run.entry]

/-- Happenings lead from one session to another. -/
inductive Course (c : Connection) : Session → List Happening → Session → Prop
  | done (s : Session) : Course c s [] s
  | ran {run : StatementRun} {rest : List Happening} {t : Session} (sql : String) (bindings : Bindings)
      (hentry : c.entry sql bindings = .ok run.entry) (hafter : run.after = (on (c.run sql bindings) run.before).2)
      (h : Course c run.after rest t) : Course c run.before (.ran run :: rest) t
  | flushed {s t : Session} {rest : List Happening} (h : Course c { s with log := [] } rest t) :
      Course c s (.flushed :: rest) t
  | suspended {s t : Session} {rest : List Happening} (h : Course c { s with pretending := true } rest t) :
      Course c s (.suspended :: rest) t
  | resumed {s t : Session} {rest : List Happening} (h : Course c { s with pretending := false } rest t) :
      Course c s (.resumed :: rest) t
  | logging {s t : Session} {rest : List Happening} (logging : Bool) (h : Course c { s with logging } rest t) :
      Course c s rest t

namespace Course

variable {c : Connection} {s t u : Session} {earlier later : List Happening}

/-- What a run does does not depend on how it comes out. -/
lemma sound {run : StatementRun} {sql : String} {bindings : Bindings} (hentry : c.entry sql bindings = .ok run.entry)
    (hafter : run.after = (on (c.run sql bindings) run.before).2) : run.Sound := by
  cases hflag : run.before.pretending with
  | true =>
    rw [Connection.on_run_of_pretending hentry hflag] at hafter
    have hsent : run.after.sent = run.before.sent := by rw [hafter]
    have hlog : run.after.log = run.before.log ++ [run.entry] := by rw [hafter]
    exact ⟨by rw [hafter], .inr hlog, hsent ▸ List.suffix_rfl, fun _ => ⟨hsent, hlog⟩⟩
  | false =>
    obtain ⟨statement, _, hbound, _⟩ := Connection.exists_bound_of_entry hentry
    rw [Connection.on_run_of_live hbound hentry hflag] at hafter
    refine ⟨by rw [hafter], ?_, ?_, by simp [hflag]⟩
    · rw [hafter]
      dsimp only
      split_ifs
      · exact .inr rfl
      · exact .inl (List.append_nil _)
    · rw [hafter]
      exact List.suffix_append _ _

lemma append (h : Course c s earlier t) (h' : Course c t later u) : Course c s (earlier ++ later) u := by
  induction h with
  | done => exact h'
  | ran sql bindings hentry hafter _ ih => exact .ran sql bindings hentry hafter (ih h')
  | flushed _ ih => exact .flushed (ih h')
  | suspended _ ih => exact .suspended (ih h')
  | resumed _ ih => exact .resumed (ih h')
  | logging flag _ ih => exact .logging flag (ih h')

/-- **The happenings tell the log.** -/
theorem log_eq {course : List Happening} (h : Course c s course t) : t.log = course.foldl Happening.log s.log := by
  induction h with
  | done => rfl
  | ran sql bindings hentry hafter _ ih =>
    rename_i run rest t _
    have hlog : run.after.log = Happening.log run.before.log (.ran run) := by
      rw [Happening.log]
      split_ifs with hsame
      · exact hsame
      · exact (sound hentry hafter).log.resolve_left hsame
    rw [ih, hlog]
    rfl
  | flushed _ ih => exact ih
  | suspended _ ih => exact ih
  | resumed _ ih => exact ih
  | logging flag _ ih => exact ih

/-- Texts that have been sent stay. -/
lemma sent_suffix {course : List Happening} (h : Course c s course t) : s.sent <:+ t.sent := by
  induction h with
  | done => exact List.suffix_rfl
  | ran sql bindings hentry hafter _ ih => exact (sound hentry hafter).sent.trans ih
  | flushed _ ih => exact ih
  | suspended _ ih => exact ih
  | resumed _ ih => exact ih
  | logging flag _ ih => exact ih

/-- **Nothing is sent exactly if no statement is sent.** -/
theorem sent_eq_iff {course : List Happening} (h : Course c s course t) :
    t.sent = s.sent ↔ ∀ run, .ran run ∈ course → run.after.sent = run.before.sent := by
  induction h with
  | done => simp
  | ran sql bindings hentry hafter h ih =>
    rename_i run rest t
    have hkept : t.sent = run.before.sent ↔ run.after.sent = run.before.sent ∧ t.sent = run.after.sent := by
      constructor
      · intro hsame
        have hback : run.after.sent <:+ run.before.sent := hsame ▸ h.sent_suffix
        have hrun : run.after.sent = run.before.sent := hback.eq_of_length_le (sound hentry hafter).sent.length_le
        exact ⟨hrun, hsame.trans hrun.symm⟩
      · rintro ⟨hrun, hrest⟩
        exact hrest.trans hrun
    rw [hkept, ih]
    simp
  | flushed _ ih => simpa using ih
  | suspended _ ih => simpa using ih
  | resumed _ ih => simpa using ih
  | logging flag _ ih => exact ih

/-- What holds of a statement that is run in some course: it makes an entry of its own, and the happenings before it tell
whether it is executed. -/
structure Runs (c : Connection) (pretending : Bool) (run : StatementRun) : Prop where
  sound : run.Sound
  entry : ∃ sql bindings, c.entry sql bindings = .ok run.entry
  flag : run.before.pretending = pretending

theorem runs {run : StatementRun} (h : Course c s (earlier ++ .ran run :: later) t) :
    Runs c (earlier.foldl Happening.flag s.pretending) run := by
  generalize hcourse : earlier ++ .ran run :: later = course at h
  -- by induction on the course: the run comes first, or stands in the rest
  induction h generalizing earlier with
  | done => simp at hcourse
  | ran sql bindings hentry hafter _ ih =>
    rcases earlier with - | ⟨first, earlier⟩
    · obtain ⟨hrun, -⟩ := List.cons.inj hcourse
      cases hrun
      exact ⟨sound hentry hafter, ⟨sql, bindings, hentry⟩, rfl⟩
    · obtain ⟨rfl, hrest⟩ := List.cons.inj hcourse
      have hruns := ih hrest
      rwa [(sound hentry hafter).pretending] at hruns
  | flushed _ ih =>
    rcases earlier with - | ⟨first, earlier⟩
    · simp at hcourse
    · obtain ⟨rfl, hrest⟩ := List.cons.inj hcourse
      have hruns := ih hrest
      exact hruns
  | suspended _ ih =>
    rcases earlier with - | ⟨first, earlier⟩
    · simp at hcourse
    · obtain ⟨rfl, hrest⟩ := List.cons.inj hcourse
      have hruns := ih hrest
      exact hruns
  | resumed _ ih =>
    rcases earlier with - | ⟨first, earlier⟩
    · simp at hcourse
    · obtain ⟨rfl, hrest⟩ := List.cons.inj hcourse
      have hruns := ih hrest
      exact hruns
  | logging flag _ ih => exact ih hcourse

end Course

/-! ### work -/

namespace Connection

/-- What happens in a run of a statement: nothing if it is refused. -/
def courseOfRun (c : Connection) (sql : String) (bindings : Bindings) (s : Session) : List Happening :=
  match c.entry sql bindings with
  | .ok entry => [.ran ⟨entry, s, (on (c.run sql bindings) s).2⟩]
  | .error _ => []

end Connection

open Connection (setLogging flushLog whilePretending)

/-- What happens in an action that follows another one: nothing if the first one fails. -/
def courseAfter {α : Type} (courses : α → Session → List Happening) :
    Except ConnectionError α × Session → List Happening
  | (.ok a, s) => courses a s
  | (.error _, _) => []

@[simp] lemma courseAfter_ok {α : Type} (courses : α → Session → List Happening) (a : α) (s : Session) :
    courseAfter courses (.ok a, s) = courses a s := rfl

@[simp] lemma courseAfter_nil {α : Type} (outcome : Except ConnectionError α × Session) :
    courseAfter (fun _ _ => []) outcome = [] := by
  rcases outcome with ⟨_ | _, _⟩ <;> rfl

/-- Work on a connection, with what happens in its course: calls in a row, each depending on the outcomes before it, and
with failures followed up or not. -/
inductive Work (c : Connection) : {α : Type} → Action α → (Session → List Happening) → Prop
  | pure {α : Type} (a : α) : Work c (pure a) fun _ => []
  | fail {α : Type} (error : ConnectionError) : Work c (throw error : Action α) fun _ => []
  | read : Work c get fun _ => []
  | run (sql : String) (bindings : Bindings) : Work c (c.run sql bindings) (c.courseOfRun sql bindings)
  | setLogging (flag : Bool) : Work c (setLogging flag) fun _ => []
  | flushLog : Work c flushLog fun _ => [.flushed]
  | bind {α β : Type} {action : Action α} {next : α → Action β} {course : Session → List Happening}
      {courses : α → Session → List Happening} (h : Work c action course) (hnext : ∀ a, Work c (next a) (courses a)) :
      Work c (action >>= next) fun s => course s ++ courseAfter courses (on action s)
  | attempt {α : Type} {action : Action α} {course : Session → List Happening} (h : Work c action course) :
      Work c action.attempt course
  | whilePretending {α : Type} {action : Action α} {course : Session → List Happening} (h : Work c action course) :
      Work c (whilePretending action) fun s => .suspended :: course { s with pretending := true } ++ [.resumed]

lemma on_whilePretending {α : Type} (work : Action α) (s : Session) :
    on (whilePretending work) s =
      ((on work { s with pretending := true }).1,
        { (on work { s with pretending := true }).2 with pretending := false }) := by
  refine (Action.on_bind_of_ok (Action.on_modify _ s)).trans ((Action.on_bind_of_ok (Action.on_attempt _ _)).trans
    ((Action.on_bind_of_ok (Action.on_modify _ _)).trans ?_))
  cases (on work { s with pretending := true }).1 <;> rfl

/-- **The course of some work leads from the session before it to the session after it.** -/
theorem Work.leads {c : Connection} {α : Type} {action : Action α} {course : Session → List Happening}
    (h : Work c action course) (s : Session) : Course c s (course s) (on action s).2 := by
  induction h generalizing s with
  | pure a => exact .done s
  | fail error => exact .done s
  | read => exact .done s
  | run sql bindings =>
    rw [Connection.courseOfRun]
    cases hentry : c.entry sql bindings with
    | ok entry => exact @Course.ran c ⟨entry, s, (on (c.run sql bindings) s).2⟩ [] _ sql bindings hentry rfl (.done _)
    | error error =>
      rw [Connection.on_run_of_error hentry]
      exact .done s
  | setLogging flag => exact .logging flag (.done _)
  | flushLog => exact .flushed (.done _)
  | bind h hnext ih ihnext =>
    rename_i action next course courses
    rw [on_bind]
    have hfirst := ih s
    refine hfirst.append ?_
    -- the second action only comes into play if the first one succeeds
    obtain ⟨outcome, t⟩ := on action s
    cases outcome with
    | ok a => exact ihnext a t
    | error error => exact .done t
  | attempt h ih => exact ih s
  | whilePretending h ih =>
    rw [on_whilePretending]
    exact .suspended ((ih _).append (.resumed (.done _)))

/-! ### steps -/

/-- An action that is work, whatever its course. -/
def IsWork (c : Connection) {α : Type} (action : Action α) : Prop := ∃ course, Work c action course

namespace IsWork

variable {c : Connection} {α β : Type}

lemma pure (a : α) : IsWork c (pure a) := ⟨_, .pure a⟩

lemma fail (error : ConnectionError) : IsWork c (throw error : Action α) := ⟨_, .fail error⟩

lemma read : IsWork c get := ⟨_, .read⟩

lemma bind {action : Action α} {next : α → Action β} (h : IsWork c action) (hnext : ∀ a, IsWork c (next a)) :
    IsWork c (action >>= next) := by
  obtain ⟨course, h⟩ := h
  choose courses hnext using hnext
  exact ⟨_, .bind h hnext⟩

lemma attempt {action : Action α} (h : IsWork c action) : IsWork c action.attempt :=
  h.imp fun _ => .attempt

lemma whilePretending {action : Action α} (h : IsWork c action) : IsWork c (Connection.whilePretending action) := by
  obtain ⟨course, h⟩ := h
  exact ⟨_, .whilePretending h⟩

lemma replying {action : Action Unit} (reply : Reply) (h : IsWork c action) :
    IsWork c (Connection.replying reply action) :=
  h.bind fun _ => pure reply

lemma ofCompiled (compiled : Compiled α) : IsWork c (Action.ofCompiled compiled) := by
  cases compiled with
  | ok a => exact pure a
  | error error => exact fail (.grammar error)

lemma ofStatement (result : Except StatementError α) : IsWork c (Action.ofStatement result) := by
  cases result with
  | ok a => exact pure a
  | error error => exact fail (.statement error)

end IsWork

namespace Connection

variable (c : Connection)

lemma isWork_run (sql : String) (bindings : Bindings) : IsWork c (c.run sql bindings) := ⟨_, .run sql bindings⟩

lemma isWork_statement (sql : String) (bindings : Bindings) : IsWork c (c.statement sql bindings) :=
  (c.isWork_run sql bindings).bind fun _ => .pure ()

lemma isWork_affecting (sql : String) (bindings : Bindings) : IsWork c (c.affecting sql bindings) :=
  (c.isWork_run sql bindings).bind fun _ => .pure _

lemma isWork_select (sql : String) (bindings : Bindings) : IsWork c (c.select sql bindings) := by
  refine (c.isWork_run sql bindings).bind fun result => ?_
  cases result with
  | none => exact .pure []
  | some statement => exact .ofStatement statement.fetchAll.1

lemma isWork_selectOne (sql : String) (bindings : Bindings) : IsWork c (c.selectOne sql bindings) :=
  (c.isWork_select sql bindings).bind fun _ => .pure _

lemma isWork_insertGetId (q : Query) (values : RowValues) (sequence : Option String) :
    IsWork c (c.insertGetId q values sequence) := by
  refine .bind (.ofCompiled _) fun f => .bind (c.isWork_statement _ _) fun _ => .bind (.ofCompiled _) fun table =>
    .bind (c.isWork_selectOne _ _) fun row => .bind .read fun session => ?_
  split_ifs
  · exact .pure Value.null
  · split
    · exact .pure _
    · exact .fail _

lemma isWork_runAll (texts : List String) : IsWork c (c.runAll texts) := by
  induction texts with
  | nil => exact .pure ()
  | cons sql rest ih => exact (c.isWork_statement sql {}).bind fun _ => ih

lemma isWork_runBlueprint (b : Blueprint) : IsWork c (c.runBlueprint b) :=
  .bind (.ofCompiled _) fun texts => c.isWork_runAll texts

lemma isWork_columnListing (table : String) : IsWork c (c.columnListing table) :=
  (c.isWork_select _ _).bind fun _ => .pure _

lemma isWork_allTables : IsWork c c.allTables := (c.isWork_select _ _).bind fun _ => .pure _

lemma isWork_allViews : IsWork c c.allViews := (c.isWork_select _ _).bind fun _ => .pure _

lemma isWork_dropAllTables : IsWork c c.dropAllTables := by
  refine c.isWork_allTables.bind fun tables => ?_
  split_ifs
  · exact .pure ()
  · exact (c.isWork_statement _ _).bind fun _ => (c.isWork_statement _ _).bind fun _ => c.isWork_statement _ _

lemma isWork_dropAllViews : IsWork c c.dropAllViews := by
  refine c.isWork_allViews.bind fun views => ?_
  split_ifs
  · exact .pure ()
  · exact c.isWork_statement _ _

lemma isWork_carryOut (request : Request) : IsWork c (c.carryOut request) := by
  cases request with
  | select q => exact .bind (.ofCompiled _) fun f => (c.isWork_select _ _).bind fun _ => .pure _
  | insert q rows => exact .bind (.ofCompiled _) fun f => (c.isWork_statement _ _).bind fun _ => .pure _
  | insertOrIgnore q rows => exact .bind (.ofCompiled _) fun f => (c.isWork_affecting _ _).bind fun _ => .pure _
  | insertGetId q values sequence => exact (c.isWork_insertGetId q values sequence).bind fun _ => .pure _
  | upsert q rows uniqueBy assignments =>
    exact .bind (.ofCompiled _) fun f => (c.isWork_affecting _ _).bind fun _ => .pure _
  | update q values => exact .bind (.ofCompiled _) fun f => (c.isWork_affecting _ _).bind fun _ => .pure _
  | delete q => exact .bind (.ofCompiled _) fun f => (c.isWork_affecting _ _).bind fun _ => .pure _
  | truncate q => exact .bind (.ofCompiled _) fun f => (c.isWork_statement _ _).bind fun _ => .pure _

mutual
/-- **Every step is work.** -/
theorem isWork_perform : ∀ step, IsWork c (c.perform step)
  | .statement sql bindings => (c.isWork_statement sql bindings).replying _
  | .affecting sql bindings => (c.isWork_affecting sql bindings).bind fun _ => .pure _
  | .select sql bindings => (c.isWork_select sql bindings).bind fun _ => .pure _
  | .selectOne sql bindings => (c.isWork_selectOne sql bindings).bind fun _ => .pure _
  | .request request => c.isWork_carryOut request
  | .runBlueprint b => (c.isWork_runBlueprint b).replying _
  | .pretend steps => by
    rw [perform]
    exact .bind .read fun _ => .bind (isWork_performUntilError steps).whilePretending fun _ =>
      .bind .read fun _ => .pure _
  | .isPretending => .bind .read fun _ => .pure _
  | .setLogging flag => .replying _ ⟨_, .setLogging flag⟩
  | .flushLog => .replying _ ⟨_, .flushLog⟩
  | .queryLog => .bind .read fun _ => .pure _
  | .prepareBindings bindings => .pure _
  | .bindValues sql bindings => .bind (.ofStatement _) fun _ => .bind (.ofStatement _) fun _ => .pure _
  | .info => .pure _
  | .hasTable table => .bind (.bind (c.isWork_select _ _) fun _ => .pure _) fun _ => .pure _
  | .columnListing table => (c.isWork_columnListing table).bind fun _ => .pure _
  | .hasColumn table column => .bind (.bind (c.isWork_columnListing table) fun _ => .pure _) fun _ => .pure _
  | .hasColumns table columns => .bind (.bind (c.isWork_columnListing table) fun _ => .pure _) fun _ => .pure _
  | .columnType table column => .bind (.bind (c.isWork_select _ _) fun _ => .pure _) fun _ => .pure _
  | .tableDetails table => (c.isWork_select _ _).bind fun _ => .pure _
  | .createTable table b => (c.isWork_runBlueprint _).replying _
  | .alterTable table b => (c.isWork_runBlueprint _).replying _
  | .dropTable table => (c.isWork_runBlueprint _).replying _
  | .dropTableIfExists table => (c.isWork_runBlueprint _).replying _
  | .renameTable table name => (c.isWork_runBlueprint _).replying _
  | .allTables => c.isWork_allTables.bind fun _ => .pure _
  | .allViews => c.isWork_allViews.bind fun _ => .pure _
  | .dropAllTables => c.isWork_dropAllTables.replying _
  | .dropAllViews => c.isWork_dropAllViews.replying _
  | .createDatabase name => (c.isWork_statement _ _).replying _
  | .dropDatabase name => (c.isWork_statement _ _).replying _
  | .dropDatabaseIfExists name => (c.isWork_statement _ _).replying _
  | .enableForeignKeys => (c.isWork_statement _ _).replying _
  | .disableForeignKeys => (c.isWork_statement _ _).replying _

theorem isWork_performUntilError : ∀ steps, IsWork c (c.performUntilError steps)
  | [] => .pure []
  | step :: steps => by
    rw [performUntilError]
    refine (isWork_perform step).attempt.bind fun outcome => ?_
    cases outcome with
    | error error => exact .pure _
    | ok reply => exact (isWork_performUntilError steps).bind fun _ => .pure _
end

end Connection

end WarehouseSql
