import WarehouseSql.Proofs.Connection.Accounting
import WarehouseSql.Proofs.Connection.Skipping

/-!
Dropping all tables.  The drop stands between a statement that turns the checks of foreign keys off and one that turns
them on again, and a run without values hands over its text or nothing (`Connection.exists_sent_run`).  **The
checks are on at the end exactly if neither turning them off nor dropping the tables fails**
(`Connection.leavesChecksOn_iff`); otherwise the connection returns at once and leaves them off
(`Connection.exists_checks_left_off`).
-/

namespace WarehouseSql

open WarehouseSql.Action (on on_bind on_bind_of_ok on_bind_of_error snd_on_bind_pure)

/-! ### checks of foreign keys -/

def Sent.checksOff : Sent := ⟨.direct, SchemaDialect.disableForeignKeys⟩

def Sent.checksOn : Sent := ⟨.direct, SchemaDialect.enableForeignKeys⟩

/-- Wherever texts, the first one first, turn the checks of foreign keys off, they turn them on again, and all that
stands between is as told. -/
def LeavesChecksOn (between : Sent → Prop) (texts : List Sent) : Prop :=
  ∀ before after, texts = before ++ Sent.checksOff :: after →
    ∃ inside rest, after = inside ++ Sent.checksOn :: rest ∧ ∀ text ∈ inside, between text

section

variable {between : Sent → Prop} {before after : List Sent}

lemma leavesChecksOn_of_not_mem (h : Sent.checksOff ∉ before) : LeavesChecksOn between before := by
  rintro earlier later rfl
  exact absurd (List.mem_append_right _ List.mem_cons_self) h

/-- Texts that turn the checks off once have to turn them on after that. -/
lemma leavesChecksOn_append_cons_iff (hbefore : Sent.checksOff ∉ before) (hafter : Sent.checksOff ∉ after) :
    LeavesChecksOn between (before ++ Sent.checksOff :: after) ↔
      ∃ inside rest, after = inside ++ Sent.checksOn :: rest ∧ ∀ text ∈ inside, between text := by
  refine ⟨fun h => h before after rfl, fun h earlier later hsplit => ?_⟩
  obtain ⟨-, -, rfl⟩ := (List.append_cons_inj_of_notMem hbefore hafter).1 hsplit
  exact h

end

namespace Connection

variable {c : Connection} {sql : String} {s : Session}

/-! ### statements without values -/

/-- What a text without values resolves to is handed over as it is, or not at all. -/
lemma sent?_of_resolution {resolution : Resolution} (h : c.resolution sql {} = .ok resolution) :
    resolution.sent? = none ∨ resolution.sent? = some ⟨.direct, sql⟩ := by
  have hresolve : (c.prepare sql).resolve = .ok resolution := h
  cases resolution with
  | skip text => exact .inl rfl
  | direct text =>
    obtain ⟨-, -, -, rfl⟩ := DeferredStatement.resolve_eq_ok_direct_iff.1 hresolve
    exact .inr rfl
  | literal text =>
    -- a marker needs a value, and there is none
    obtain ⟨hmarkers, -, _, _, hpositional, hnamed, -⟩ := DeferredStatement.resolve_eq_ok_literal_iff.1 hresolve
    obtain ⟨-, hcount⟩ := DeferredStatement.positionalLiterals_eq_ok_iff.1 hpositional
    obtain ⟨-, hnames⟩ := DeferredStatement.namedLiterals_eq_ok_iff.1 hnamed
    have hnone : (c.prepare sql).template.positionalCount = 0 := by
      rcases hcount with ⟨hnone, -⟩ | ⟨hpos, -, hrange⟩
      · exact hnone
      · have hlength : 0 = (c.prepare sql).template.positionalCount := by
          simpa [prepare] using congrArg List.length hrange
        exact hlength.symm
    have hnil : (c.prepare sql).template.names = [] := List.eq_nil_iff_forall_not_mem.2 fun name hname => by
      simpa [prepare] using (hnames name).2 hname
    simp [Template.hasMarkers, hnone, hnil] at hmarkers

/-- **A run without values hands over its text or nothing**, unless the session pretends. -/
lemma exists_sent_run (c : Connection) (sql : String) (hs : s.pretending = false) :
    ∃ handed : Option Sent, (on (c.run sql {}) s).2.sent = handed.toList ++ s.sent ∧
      (on (c.run sql {}) s).2.pretending = false ∧ (handed = none ∨ handed = some ⟨.direct, sql⟩) ∧
      ((Template.parse sql).hasMarkers = false → DeferredStatement.isConstraint sql = false →
        handed = some ⟨.direct, sql⟩) := by
  obtain ⟨handed, hsent, hlive, hhanded⟩ := c.exists_handed sql {} hs
  refine ⟨handed, hsent, hlive, ?_, fun hmarkers hconstraint => ?_⟩
  · cases handed with
    | none => exact .inl rfl
    | some text =>
      obtain ⟨resolution, hresolution, htext⟩ := (hhanded text).1 rfl
      rw [← htext]
      exact sent?_of_resolution hresolution
  · have hresolution : c.resolution sql {} = .ok (.direct sql) := by
      have hresolve := resolve_prepare (c := c) hmarkers
      rw [skips, hconstraint, Bool.and_false] at hresolve
      exact hresolve
    exact (hhanded _).2 ⟨_, hresolution, rfl⟩

lemma snd_on_allTables (c : Connection) (s : Session) :
    (on c.allTables s).2 = (on (c.run SchemaDialect.allTables {}) s).2 := by
  rw [allTables, snd_on_bind_pure, snd_on_select]

/-- A statement about the checks is handed over. -/
lemma sent_checks (checks : Sent) (hchecks : checks = Sent.checksOff ∨ checks = Sent.checksOn)
    (hs : s.pretending = false) :
    (on (c.statement checks.sql {}) s).2.sent = checks :: s.sent ∧
      (on (c.statement checks.sql {}) s).2.pretending = false := by
  obtain ⟨handed, hsent, hlive, -, hdirect⟩ := c.exists_sent_run checks.sql hs
  have hhanded : handed = some checks := by
    rcases hchecks with rfl | rfl <;> exact hdirect (by decide +kernel) (by decide +kernel)
  rw [snd_on_statement, hsent, hhanded]
  exact ⟨rfl, hlive⟩

/-! ### dropping -/

def dropUnchecked (c : Connection) (tables : List String) : Action Unit := do
  c.statement SchemaDialect.disableForeignKeys {}
  c.statement (c.config.schemaDialect.dropTables tables) {}

/-- Tables are found, and then turning the checks off or dropping the tables fails. -/
def FailsUnchecked (c : Connection) (s : Session) : Prop :=
  ∃ tables listed error, on c.allTables s = (.ok tables, listed) ∧ tables ≠ [] ∧
    (on (c.dropUnchecked tables) listed).1 = .error error

/-- A text drops the tables that are found. -/
def DropsListed (c : Connection) (s : Session) (text : Sent) : Prop :=
  ∃ tables, (on c.allTables s).1 = .ok tables ∧ text = ⟨.direct, c.config.schemaDialect.dropTables tables⟩

lemma on_dropAllTables (c : Connection) (s : Session) :
    on c.dropAllTables s =
      match on c.allTables s with
      | (.error error, listed) => (.error error, listed)
      | (.ok tables, listed) =>
        if tables = [] then (.ok (), listed)
        else on (c.dropUnchecked tables >>= fun _ => c.statement SchemaDialect.enableForeignKeys {}) listed := by
  rw [dropAllTables, on_bind]
  rcases on c.allTables s with ⟨_ | tables, listed⟩
  · rfl
  · dsimp only
    cases tables with
    | nil => rfl
    | cons table tables => rw [dropUnchecked, bind_assoc]; rfl

lemma sent_allTables (c : Connection) (hs : s.pretending = false) :
    ∃ texts : List Sent, (on c.allTables s).2.sent = texts.reverse ++ s.sent ∧
      (on c.allTables s).2.pretending = false ∧ Sent.checksOff ∉ texts := by
  obtain ⟨handed, hsent, hlive, hhanded, -⟩ := c.exists_sent_run SchemaDialect.allTables hs
  refine ⟨handed.toList, ?_, by rw [snd_on_allTables, hlive], ?_⟩
  · rw [snd_on_allTables, hsent]
    cases handed <;> rfl
  · rcases hhanded with rfl | rfl <;> decide

/-- What turning the checks off and dropping tables hands over. -/
lemma sent_dropUnchecked (c : Connection) (tables : List String) (hs : s.pretending = false) :
    ∃ dropped : List Sent, (on (c.dropUnchecked tables) s).2.sent = (Sent.checksOff :: dropped).reverse ++ s.sent ∧
      (on (c.dropUnchecked tables) s).2.pretending = false ∧
      ∀ text ∈ dropped, text = ⟨.direct, c.config.schemaDialect.dropTables tables⟩ := by
  obtain ⟨hoff, hlive⟩ : (on (c.statement SchemaDialect.disableForeignKeys {}) s).2.sent = Sent.checksOff :: s.sent ∧
      (on (c.statement SchemaDialect.disableForeignKeys {}) s).2.pretending = false :=
    sent_checks .checksOff (.inl rfl) hs
  rw [dropUnchecked, on_bind]
  cases (on (c.statement SchemaDialect.disableForeignKeys {}) s).1 with
  | error error => exact ⟨[], hoff, hlive, by simp⟩
  | ok _ =>
    obtain ⟨handed, hsent, hlive, hhanded, -⟩ := c.exists_sent_run (c.config.schemaDialect.dropTables tables) hlive
    refine ⟨handed.toList, ?_, by rw [snd_on_statement, hlive], ?_⟩
    · rw [snd_on_statement, hsent, hoff]
      cases handed <;> rfl
    · rcases hhanded with rfl | rfl <;> simp

lemma ne_of_drops {tables : List String} {text : Sent}
    (h : text = ⟨.direct, c.config.schemaDialect.dropTables tables⟩) :
    text ≠ Sent.checksOff ∧ text ≠ Sent.checksOn := by
  have hhead : text.sql.toList.head? = some 'd' := by
    rw [h, SchemaDialect.dropTables, String.toList_append]
    rfl
  constructor <;> (rintro rfl; exact absurd hhead (by decide))

lemma failsUnchecked_iff {tables : List String} {listed : Session} (h : on c.allTables s = (.ok tables, listed)) :
    c.FailsUnchecked s ↔ tables ≠ [] ∧ ∃ error, (on (c.dropUnchecked tables) listed).1 = .error error := by
  constructor
  · rintro ⟨_, _, error, hlisted, hsome, herror⟩
    rw [h] at hlisted
    cases hlisted
    exact ⟨hsome, error, herror⟩
  · rintro ⟨hsome, error, herror⟩
    exact ⟨tables, listed, error, h, hsome, herror⟩

/-- **Dropping all tables leaves the checks of foreign keys on exactly if neither turning them off nor dropping the
tables fails.**  Then nothing but the drop stands between the two statements about them; so it is whenever dropping all
tables succeeds. -/
theorem leavesChecksOn_iff (c : Connection) (hs : s.pretending = false) :
    ∃ texts, (on c.dropAllTables s).2.sent = texts.reverse ++ s.sent ∧
      (LeavesChecksOn (c.DropsListed s) texts ↔ ¬ c.FailsUnchecked s) ∧
      ((on c.dropAllTables s).1 = .ok () → ¬ c.FailsUnchecked s) := by
  obtain ⟨listing, hlisting, hlive, hlisted⟩ := c.sent_allTables hs
  rw [on_dropAllTables]
  rcases htables : on c.allTables s with ⟨error | tables, listed⟩
  · -- the tables cannot be listed, so that the checks stay as they are
    rw [htables] at hlisting
    refine ⟨listing, hlisting, iff_of_true (leavesChecksOn_of_not_mem hlisted) ?_, fun h => by cases h⟩
    rintro ⟨_, _, _, h, -⟩
    rw [htables] at h
    cases h
  rw [htables] at hlisting hlive
  rw [failsUnchecked_iff htables]
  dsimp only
  split_ifs with hnone
  · -- there are no tables, and again the checks stay as they are
    have hfine : ¬ (tables ≠ [] ∧ ∃ error, (on (c.dropUnchecked tables) listed).1 = .error error) := fun h => h.1 hnone
    exact ⟨listing, hlisting, iff_of_true (leavesChecksOn_of_not_mem hlisted) hfine, fun _ => hfine⟩
  obtain ⟨dropped, hdropped, hlive, hdrops⟩ := c.sent_dropUnchecked tables hlive
  have hoff : Sent.checksOff ∉ dropped := fun h => (ne_of_drops (hdrops _ h)).1 rfl
  have hon : Sent.checksOn ∉ dropped := fun h => (ne_of_drops (hdrops _ h)).2 rfl
  rw [on_bind]
  cases houtcome : (on (c.dropUnchecked tables) listed).1 with
  | error error =>
    -- a drop fails, and nothing is sent after it
    refine ⟨listing ++ Sent.checksOff :: dropped, ?_, ?_, fun h => by cases h⟩
    · rw [hdropped, hlisting, List.reverse_append, List.append_assoc]
    · rw [leavesChecksOn_append_cons_iff hlisted hoff]
      refine iff_of_false ?_ (not_not_intro ⟨hnone, error, rfl⟩)
      rintro ⟨inside, rest, rfl, -⟩
      exact hon (List.mem_append_right _ List.mem_cons_self)
  | ok _ =>
    -- all drops succeed, and turning the checks on comes last
    obtain ⟨hsent, -⟩ :
        (on (c.statement SchemaDialect.enableForeignKeys {}) (on (c.dropUnchecked tables) listed).2).2.sent =
          Sent.checksOn :: (on (c.dropUnchecked tables) listed).2.sent ∧ _ :=
      sent_checks .checksOn (.inr rfl) hlive
    have hfine : ¬ (tables ≠ [] ∧ ∃ error, Except.ok () = Except.error (ε := ConnectionError) error) := by
      rintro ⟨-, error, h⟩
      cases h
    refine ⟨listing ++ Sent.checksOff :: (dropped ++ [Sent.checksOn]), ?_, ?_, fun _ => hfine⟩
    · rw [hsent, hdropped, hlisting]
      simp
    · have hafter : Sent.checksOff ∉ dropped ++ [Sent.checksOn] := by simpa [hoff] using by decide
      rw [leavesChecksOn_append_cons_iff hlisted hafter]
      exact iff_of_true ⟨dropped, [], rfl, fun text htext => ⟨tables, by rw [htables], hdrops text htext⟩⟩ hfine

/-- A raw connection that finds one table and does everything but execute a statement of one's choice. -/
def finding (table : String) (refused : Option String) : Connection :=
  ⟨{}, ⟨fun history =>
    .ok ⟨if history.head?.map Sent.sql = refused then .error ⟨"42000", "no"⟩ else .ok true, ⟨"00000", none⟩,
      fun _ => .ok [⟨[("name", .text table)]⟩], 1⟩⟩⟩

theorem leavesChecksOn_iff_guest :
    let c := finding "GUEST" none
    let texts := [⟨.direct, "SHOW TABLES"⟩, Sent.checksOff, ⟨.direct, "drop table GUEST"⟩, Sent.checksOn]
    on c.dropAllTables {} = (.ok (), { sent := texts.reverse }) ∧ LeavesChecksOn (c.DropsListed {}) texts := by
  intro c texts
  have hdropped : on c.dropAllTables {} = (.ok (), { sent := texts.reverse }) := by decide +kernel
  obtain ⟨handed, hsent, hleaves, hfine⟩ := leavesChecksOn_iff c (s := {}) rfl
  rw [hdropped] at hsent hfine
  obtain rfl : texts = handed := by simpa using hsent
  exact ⟨hdropped, hleaves.2 (hfine rfl)⟩

/-- A drop that the raw connection refuses leaves the checks off, and so does one that is never handed over since the
name of the table holds a marker. -/
theorem exists_checks_left_off :
    let refusing := finding "GUEST" (some "drop table GUEST")
    let texts := [⟨.direct, "SHOW TABLES"⟩, Sent.checksOff, ⟨.direct, "drop table GUEST"⟩]
    let willing := finding "WHO?" none
    (on refusing.dropAllTables {} = (.error (.statement (.driver "42000" "no")), { sent := texts.reverse }) ∧
        ¬ LeavesChecksOn (refusing.DropsListed {}) texts) ∧
      on willing.dropAllTables {} = (.error (.statement (.bindingArity 1 0)), { sent := (texts.take 2).reverse }) ∧
        ¬ LeavesChecksOn (willing.DropsListed {}) (texts.take 2) := by
  intro refusing texts willing
  refine ⟨⟨by decide +kernel, fun h => ?_⟩, by decide +kernel, fun h => ?_⟩
  · obtain ⟨inside, rest, hafter, -⟩ := h [⟨.direct, "SHOW TABLES"⟩] [⟨.direct, "drop table GUEST"⟩] rfl
    have hon : Sent.checksOn ∈ [⟨.direct, "drop table GUEST"⟩] := by
      rw [hafter]
      exact List.mem_append_right _ List.mem_cons_self
    exact absurd hon (by decide)
  · obtain ⟨inside, rest, hafter, -⟩ := h [⟨.direct, "SHOW TABLES"⟩] [] rfl
    cases inside <;> cases hafter

end Connection

end WarehouseSql
