import WarehouseSql.Proofs.Connection.Pretending
import WarehouseSql.Proofs.Statement.Given

/-!
The ways to carry a request out agree: its lines with the bindings inlined, the texts that a connection sends, the
literals in its log, and the literals of the entries when it pretends.  The lines are inlined in one go (`interpolate`),
a connection binds value by value, with types declared for some, and resolves the statement; **both give the same text**
(`exists_resolution_of_interpolate`).  Whole requests follow statement by statement (`literalLines_agree`).
-/

namespace WarehouseSql

open WarehouseSql.Action (on on_bind on_bind_of_ok on_bind_of_error)

/-! ### one text, inlined in two ways -/

/-- The type that a value is declared with does not change its literal. -/
lemma literal_declare (v : Value) : (declare v).literal = v.literal none := by
  cases v with
  | text content =>
    rw [declare]
    split_ifs <;> rfl
  | _ => rfl

lemma map_literal_declaredFrom (start : Nat) (values : List Value) :
    (declaredFrom start values).map (fun entry => entry.2.literal) = values.map (·.literal none) := by
  induction values generalizing start with
  | nil => rfl
  | cons v values ih => rw [declaredFrom, List.map_cons, List.map_cons, ih, literal_declare]

namespace Connection

variable {c : Connection} {sql text : String} {values : List Value} {s : Session}

lemma bound_ofValues (c : Connection) (sql : String) (values : List Value) :
    c.bound sql (.ofValues values) = .ok { c.prepare sql with
      positional := declaredFrom 1 values
      state := (c.prepare sql).stateAfter values } := by
  have hvalues : (Bindings.ofValues values).normalized.positional.map Supplied.normalize = values := by
    rw [Bindings.ofValues, Bindings.normalized, List.map_map, List.map_map]
    exact List.map_id values
  have hbind : bindPositional 1 values (c.prepare sql) = .ok { c.prepare sql with
      positional := (c.prepare sql).positional ++ declaredFrom 1 values
      state := (c.prepare sql).stateAfter values } :=
    bindPositional_eq rfl Nat.one_pos (by simp [prepare])
  rw [bound, Bindings.bindTo, hvalues, hbind]
  rfl

/-- Values that can be inlined take the places of the markers. -/
lemma resolve_of_interpolate (hvalues : values ≠ []) (h : interpolate sql values = .ok text) :
    DeferredStatement.resolve { c.prepare sql with
      positional := declaredFrom 1 values
      state := (c.prepare sql).stateAfter values } = .ok (.literal text) := by
  obtain ⟨hnames, hcount, rfl⟩ := interpolate_eq_ok_iff.1 h
  have hsome : 0 < (Template.parse sql).positionalCount := hcount ▸ List.length_pos_iff.2 hvalues
  refine DeferredStatement.resolve_eq_ok_literal_iff.2
    ⟨Template.hasMarkers_eq_true_iff.2 (.inl hsome), Template.isMixed_eq_false_iff.2 (.inr hnames), _, _,
      DeferredStatement.positionalLiterals_eq_ok_iff.2 ⟨(map_literal_declaredFrom 1 values).symm, .inr ⟨hsome, rfl, ?_⟩⟩,
      DeferredStatement.namedLiterals_eq_ok_iff.2 ⟨rfl, ?_⟩, rfl⟩
  · exact (map_fst_declaredFrom 1 values).trans (hcount ▸ rfl)
  · intro name
    simp [DeferredStatement.template, prepare, hnames]

/-- **A statement resolves to the text that inlining gives.** -/
theorem exists_resolution_of_interpolate (hskip : c.config.options.skipConstraints = false)
    (h : interpolate sql values = .ok text) :
    ∃ statement resolution, c.bound sql (.ofValues values) = .ok statement ∧ statement.resolve = .ok resolution ∧
      resolution.sql = text ∧ resolution.sent?.map Sent.sql = some text := by
  by_cases hvalues : values = []
  · subst hvalues
    obtain ⟨hnames, hcount, rfl⟩ := interpolate_eq_ok_iff.1 h
    have hmarkers : (Template.parse sql).hasMarkers = false := by simp [Template.hasMarkers, hnames, hcount]
    refine ⟨_, .direct sql, c.bound_ofValues sql [], ?_, ?_, ?_⟩
    · exact DeferredStatement.resolve_eq_ok_direct_iff.2 ⟨hmarkers, by simp [prepare, hskip], ⟨rfl, rfl⟩, rfl⟩
    · exact (Template.render_of_not_hasMarkers hmarkers _).symm
    · rw [List.map_nil, Template.render_of_not_hasMarkers hmarkers]
      rfl
  · exact ⟨_, .literal text, c.bound_ofValues sql values, resolve_of_interpolate hvalues h, rfl, rfl⟩

end Connection

/-! ### sessions to which texts have been handed -/

/-- A session after texts have been handed to it in order: they have been sent unless it pretends, and have made entries
if it pretends or logs. -/
structure Handed (texts : List String) (s t : Session) : Prop where
  pretending : t.pretending = s.pretending
  logging : t.logging = s.logging
  sent : ∃ sent, t.sent = sent ++ s.sent ∧ sent.map Sent.sql = if s.pretending then [] else texts.reverse
  log : ∃ added, t.log = s.log ++ added ∧
    added.map LoggedQuery.literal = if s.pretending || s.logging then texts else []

namespace Handed

variable {texts more : List String} {s t u : Session}

lemma append (h : Handed texts s t) (h' : Handed more t u) : Handed (texts ++ more) s u := by
  obtain ⟨sent, hsent, htexts⟩ := h.sent
  obtain ⟨sent', hsent', hmore⟩ := h'.sent
  obtain ⟨added, hadded, hliterals⟩ := h.log
  obtain ⟨added', hadded', hliterals'⟩ := h'.log
  rw [h.pretending] at hmore
  rw [h.pretending, h.logging] at hliterals'
  refine ⟨h'.pretending.trans h.pretending, h'.logging.trans h.logging, ⟨sent' ++ sent, ?_, ?_⟩, added ++ added', ?_, ?_⟩
  · rw [hsent', hsent, List.append_assoc]
  · rw [List.map_append, htexts, hmore]
    split_ifs
    · rfl
    · rw [List.reverse_append]
  · rw [hadded', hadded, List.append_assoc]
  · rw [List.map_append, hliterals, hliterals']
    split_ifs <;> rfl

end Handed

namespace Connection

variable {c : Connection} {sql text : String} {values : List Value} {s : Session}

theorem handed_run (hskip : c.config.options.skipConstraints = false) (hraw : c.raw.Succeeds)
    (h : interpolate sql values = .ok text) (s : Session) :
    ∃ result t, on (c.run sql (.ofValues values)) s = (.ok result, t) ∧ Handed [text] s t ∧
      ∀ statement, result = some statement → ∃ rows, statement.fetchAll.1 = .ok rows := by
  obtain ⟨statement, resolution, hbound, hresolve, rfl, hsent⟩ := exists_resolution_of_interpolate hskip h
  cases hs : s.pretending with
  | true =>
    have hentry : c.entry sql (.ofValues values) =
        .ok ⟨sql, (Bindings.ofValues values).normalized.values, resolution.sql⟩ := by
      rw [entry, hbound]
      simp only [hresolve]
      rfl
    refine ⟨none, _, on_run_of_pretending hentry hs, ⟨rfl, rfl, ⟨[], rfl, ?_⟩, _, rfl, ?_⟩, by simp⟩
    · rw [if_pos hs]
      rfl
    · rw [if_pos (by rw [hs]; rfl)]
      rfl
  | false =>
    obtain ⟨after, hrows, hrun⟩ := on_run_of_succeeds hraw hbound hresolve hs
    obtain ⟨sent, hsent, hsql⟩ := Option.map_eq_some_iff.1 hsent
    refine ⟨some after, _, hrun, ⟨rfl, rfl, ⟨_, rfl, ?_⟩, _, rfl, ?_⟩, ?_⟩
    · rw [hsent, if_neg (by simp [hs])]
      exact congrArg (fun text => [text]) hsql
    · cases hlogging : s.logging <;> simp [hs]
    · rintro _ ⟨⟩
      exact hrows

lemma handed_statement (hskip : c.config.options.skipConstraints = false) (hraw : c.raw.Succeeds)
    (h : interpolate sql values = .ok text) (s : Session) :
    ∃ t, on (c.statement sql (.ofValues values)) s = (.ok (), t) ∧ Handed [text] s t := by
  obtain ⟨result, t, hrun, hhanded, -⟩ := handed_run hskip hraw h s
  exact ⟨t, on_bind_of_ok hrun, hhanded⟩

lemma handed_affecting (hskip : c.config.options.skipConstraints = false) (hraw : c.raw.Succeeds)
    (h : interpolate sql values = .ok text) (s : Session) :
    ∃ count t, on (c.affecting sql (.ofValues values)) s = (.ok count, t) ∧ Handed [text] s t := by
  obtain ⟨result, t, hrun, hhanded, -⟩ := handed_run hskip hraw h s
  exact ⟨_, t, on_bind_of_ok hrun, hhanded⟩

lemma handed_select (hskip : c.config.options.skipConstraints = false) (hraw : c.raw.Succeeds)
    (h : interpolate sql values = .ok text) (s : Session) :
    ∃ rows t, on (c.select sql (.ofValues values)) s = (.ok rows, t) ∧ Handed [text] s t := by
  obtain ⟨result, t, hrun, hhanded, hrows⟩ := handed_run hskip hraw h s
  cases result with
  | none => exact ⟨[], t, on_bind_of_ok hrun, hhanded⟩
  | some statement =>
    obtain ⟨rows, hrows⟩ := hrows statement rfl
    refine ⟨rows, t, (on_bind_of_ok hrun).trans ?_, hhanded⟩
    rw [Action.on_ofStatement, hrows]
    rfl

end Connection

/-! ### requests -/

/-- A fragment and its text with the bindings inlined. -/
def Fragment.Reads (f : Fragment) (text : String) : Prop := interpolate f.sql f.bindings = .ok text

lemma exists_texts_of_mapM {fragments : List Fragment} {lines : List String}
    (h : fragments.mapM Fragment.literalLine = .ok lines) :
    ∃ texts, List.Forall₂ Fragment.Reads fragments texts ∧ lines = texts.map (· ++ ";") := by
  induction fragments generalizing lines with
  | nil =>
    cases h
    exact ⟨[], .nil, rfl⟩
  | cons f fragments ih =>
    rw [List.mapM_cons] at h
    cases hread : interpolate f.sql f.bindings with
    | error error => simp [Fragment.literalLine, hread, bind, Except.bind] at h
    | ok text =>
      cases hrest : fragments.mapM Fragment.literalLine with
      | error error => simp [Fragment.literalLine, hread, hrest, bind, Except.bind] at h
      | ok rest =>
        obtain ⟨texts, htexts, rfl⟩ := ih hrest
        rw [Fragment.literalLine, hread, hrest] at h
        cases h
        exact ⟨text :: texts, .cons hread htexts, rfl⟩

/-- The lines of a request are the texts of its statements, each with a semicolon. -/
lemma exists_texts_of_literalLines {config : ConnectionConfig} {request : Request} {lines : List String}
    (h : request.literalLines config = .ok lines) :
    ∃ fragments texts, request.compile config = .ok fragments ∧ List.Forall₂ Fragment.Reads fragments texts ∧
      lines = texts.map (· ++ ";") := by
  rw [Request.literalLines, Request.statements] at h
  cases hcompile : request.compile config with
  | error error => simp [hcompile, bind, Except.bind] at h
  | ok fragments =>
    rw [hcompile] at h
    obtain ⟨texts, htexts, hlines⟩ := exists_texts_of_mapM h
    exact ⟨fragments, texts, rfl, htexts, hlines⟩

lemma literalLines_of_error {config : ConnectionConfig} {request : Request} {error : GrammarError}
    (h : request.compile config = .error error) : request.literalLines config = .error (.grammar error) := by
  rw [Request.literalLines, Request.statements, h]
  rfl

namespace Connection

variable {c : Connection} {s : Session}

/-- What comes of a request whose texts are handed over: a reply, or no identifier although the row is in. -/
structure CarriedOut (texts : List String) (s : Session) (outcome : Except ConnectionError Reply × Session) : Prop where
  handed : Handed texts s outcome.2
  reply : (∃ reply, outcome.1 = .ok reply) ∨ s.pretending = false ∧ ∃ sql, outcome.1 = .error (.missingRecord sql)

lemma carriedOut_single {compiled : Compiled Fragment} {next : Fragment → Action Reply} {fragments : List Fragment}
    {texts : List String} (hcompiled : (do return [← compiled] : Compiled (List Fragment)) = .ok fragments)
    (htexts : List.Forall₂ Fragment.Reads fragments texts)
    (hnext : ∀ f text, Fragment.Reads f text → ∃ reply t, on (next f) s = (.ok reply, t) ∧ Handed [text] s t) :
    CarriedOut texts s (on (Action.ofCompiled compiled >>= next) s) := by
  cases compiled with
  | error error => cases hcompiled
  | ok f =>
    cases hcompiled
    obtain ⟨text, rest, hread, hrest, rfl⟩ := List.forall₂_cons_left_iff.1 htexts
    obtain rfl := List.forall₂_nil_left_iff.1 hrest
    obtain ⟨reply, t, hreply, hhanded⟩ := hnext f text hread
    have hon : on (Action.ofCompiled (.ok f) >>= next) s = (.ok reply, t) := (on_bind_of_ok rfl).trans hreply
    rw [hon]
    exact ⟨hhanded, .inl ⟨reply, rfl⟩⟩

lemma carriedOut_fragment (hskip : c.config.options.skipConstraints = false) (hraw : c.raw.Succeeds)
    {f : Fragment} {text : String} (h : f.Reads text) (s : Session) (reply : Reply) :
    ∃ answer t, on (do c.runFragment f; return reply) s = (.ok answer, t) ∧ Handed [text] s t := by
  obtain ⟨t, ht, hhanded⟩ := handed_statement hskip hraw h s
  exact ⟨reply, t, on_bind_of_ok ht, hhanded⟩

lemma carriedOut_count (hskip : c.config.options.skipConstraints = false) (hraw : c.raw.Succeeds)
    {f : Fragment} {text : String} (h : f.Reads text) (s : Session) :
    ∃ answer t, on (do return Reply.count (← c.countFragment f)) s = (.ok answer, t) ∧ Handed [text] s t := by
  obtain ⟨count, t, ht, hhanded⟩ := handed_affecting hskip hraw h s
  exact ⟨.count count, t, on_bind_of_ok ht, hhanded⟩

/-- An insert and the query for the identifier; only the identifier may be missing then. -/
lemma carriedOut_insertGetId (hskip : c.config.options.skipConstraints = false) (hraw : c.raw.Succeeds) {q : Query}
    {values : RowValues} {sequence : Option String} {fragments : List Fragment} {texts : List String}
    (hcompile : (Request.insertGetId q values sequence).compile c.config = .ok fragments)
    (htexts : List.Forall₂ Fragment.Reads fragments texts) (s : Session) :
    CarriedOut texts s (on (c.carryOut (.insertGetId q values sequence)) s) := by
  rw [Request.compile] at hcompile
  cases hinsert : c.config.queryDialect.insert q [values] with
  | error error => simp [hinsert, bind, Except.bind] at hcompile
  | ok inserted =>
    cases htarget : c.config.queryDialect.target q with
    | error error => simp [hinsert, htarget, bind, Except.bind] at hcompile
    | ok table =>
      rw [hinsert, htarget] at hcompile
      cases hcompile
      obtain ⟨text, idTexts, hread, hids, rfl⟩ := List.forall₂_cons_left_iff.1 htexts
      obtain ⟨idText, rest, hreadId, hrest, rfl⟩ := List.forall₂_cons_left_iff.1 hids
      obtain rfl := List.forall₂_nil_left_iff.1 hrest
      -- the insert, and then the query for the identifier in the session that it leaves
      obtain ⟨t, hstatement, hhanded⟩ := handed_statement hskip hraw hread s
      obtain ⟨rows, u, hselect, hhanded'⟩ := handed_select hskip hraw hreadId t
      have hflag : u.pretending = s.pretending := hhanded'.pretending.trans hhanded.pretending
      have hinserted : on (Action.ofCompiled (.ok inserted)) s = (.ok inserted, s) := rfl
      have hrun : on (c.runFragment inserted) s = (.ok (), t) := hstatement
      have htargeted : on (Action.ofCompiled (.ok table)) t = (.ok table, t) := rfl
      have hrow : on (c.selectOne (c.config.options.idLookup.query table sequence) {}) t = (.ok rows.head?, u) :=
        on_bind_of_ok hselect
      have hcarry : on (c.carryOut (.insertGetId q values sequence)) s = _ := Action.on_bind _ _ s
      rw [hcarry, insertGetId, hinsert, htarget, on_bind_of_ok hinserted, on_bind_of_ok hrun, on_bind_of_ok htargeted]
      dsimp only
      rw [on_bind_of_ok hrow, on_bind_of_ok (Action.on_get u)]
      cases hs : s.pretending with
      | true =>
        rw [hs] at hflag
        rw [if_pos hflag]
        exact ⟨hhanded.append hhanded', .inl ⟨_, rfl⟩⟩
      | false =>
        rw [hs] at hflag
        rw [if_neg (by simp [hflag])]
        cases rows.head?.bind fun row => c.config.options.idLookup.extract? row sequence with
        | none => exact ⟨hhanded.append hhanded', .inr ⟨hs, _, rfl⟩⟩
        | some id => exact ⟨hhanded.append hhanded', .inl ⟨_, rfl⟩⟩

/-- **A request hands over the texts of its statements in order.** -/
theorem carriedOut (hskip : c.config.options.skipConstraints = false) (hraw : c.raw.Succeeds) {request : Request}
    {fragments : List Fragment} {texts : List String} (hcompile : request.compile c.config = .ok fragments)
    (htexts : List.Forall₂ Fragment.Reads fragments texts) (s : Session) :
    CarriedOut texts s (on (c.carryOut request) s) := by
  cases request with
  | select q =>
    refine carriedOut_single hcompile htexts fun f text hread => ?_
    obtain ⟨rows, t, ht, hhanded⟩ := handed_select hskip hraw hread s
    exact ⟨.rows rows, t, on_bind_of_ok ht, hhanded⟩
  | insert q rows => exact carriedOut_single hcompile htexts fun f text hread => carriedOut_fragment hskip hraw hread s _
  | insertOrIgnore q rows =>
    exact carriedOut_single hcompile htexts fun f text hread => carriedOut_count hskip hraw hread s
  | insertGetId q values sequence => exact carriedOut_insertGetId hskip hraw hcompile htexts s
  | upsert q rows uniqueBy assignments =>
    exact carriedOut_single hcompile htexts fun f text hread => carriedOut_count hskip hraw hread s
  | update q values => exact carriedOut_single hcompile htexts fun f text hread => carriedOut_count hskip hraw hread s
  | delete q => exact carriedOut_single hcompile htexts fun f text hread => carriedOut_count hskip hraw hread s
  | truncate q =>
    exact carriedOut_single hcompile htexts fun f text hread => carriedOut_fragment hskip hraw hread s _

lemma on_single_of_error {compiled : Compiled Fragment} {next : Fragment → Action Reply} {error : GrammarError}
    (h : (do return [← compiled] : Compiled (List Fragment)) = .error error) (s : Session) :
    on (Action.ofCompiled compiled >>= next) s = (.error (.grammar error), s) := by
  cases compiled with
  | ok f => cases h
  | error error' =>
    cases h
    exact on_bind_of_error rfl

lemma exists_target_of_insert {d : Dialect} {q : Query} {rows : List RowValues} {f : Fragment}
    (h : d.insert q rows = .ok f) : ∃ table, d.target q = .ok table := by
  cases htarget : d.target q with
  | ok table => exact ⟨table, rfl⟩
  | error error => simp [Dialect.insert, htarget, bind, Except.bind] at h

/-- A request that does not compile fails before anything happens. -/
theorem on_carryOut_of_error {request : Request} {error : GrammarError} (h : request.compile c.config = .error error)
    (s : Session) : on (c.carryOut request) s = (.error (.grammar error), s) := by
  cases request with
  | insertGetId q values sequence =>
    rw [Request.compile] at h
    cases hinsert : c.config.queryDialect.insert q [values] with
    | ok inserted =>
      obtain ⟨table, htarget⟩ := exists_target_of_insert hinsert
      rw [hinsert, htarget] at h
      cases h
    | error error' =>
      rw [hinsert] at h
      cases h
      refine on_bind_of_error ?_
      rw [insertGetId, hinsert]
      exact on_bind_of_error rfl
  | _ => exact on_single_of_error h s

lemma on_performAll_singleton {step : Step} {reply : Reply} {t : Session}
    (h : on (c.perform step) s = (.ok reply, t)) : on (c.performAll [step]) s = (.ok (), t) := by
  have hattempt : on (c.perform step).attempt s = (.ok (.ok reply), t) := by rw [Action.on_attempt, h]
  have houtcomes : on (c.performUntilError [step]) s = (.ok [.ok reply], t) := by
    rw [performUntilError]
    exact on_bind_of_ok hattempt
  exact on_bind_of_ok houtcomes

/-- A request that is pretended makes entries with its texts. -/
lemma exists_log_of_pretend (hskip : c.config.options.skipConstraints = false) (hraw : c.raw.Succeeds)
    {request : Request} {fragments : List Fragment} {texts : List String}
    (hcompile : request.compile c.config = .ok fragments) (htexts : List.Forall₂ Fragment.Reads fragments texts)
    (s : Session) :
    ∃ inner log, (on (c.perform (.pretend [.request request])) s).1 = .ok (.pretended inner (.ok log)) ∧
      log.map LoggedQuery.literal = texts ∧ (on (c.perform (.pretend [.request request])) s).2.sent = s.sent := by
  have hcarried := carriedOut hskip hraw hcompile htexts { s with pretending := true }
  obtain ⟨reply, hreply⟩ := hcarried.reply.resolve_right (by simp)
  obtain ⟨added, hadded, hliterals⟩ := hcarried.handed.log
  obtain ⟨sent, hsent, hnone⟩ := hcarried.handed.sent
  have hwork : on (c.performAll [.request request]) { s with pretending := true } =
      (.ok (), (on (c.carryOut request) { s with pretending := true }).2) :=
    on_performAll_singleton (Prod.ext hreply rfl)
  obtain ⟨inner, hpretend⟩ := c.on_perform_pretend [.request request] s
  rw [on_pretend, hwork, hadded] at hpretend
  refine ⟨inner, added, ?_, hliterals, ?_⟩
  · rw [hpretend]
    simp only [Except.map, List.drop_left]
  · rw [hpretend]
    obtain rfl := List.map_eq_nil_iff.1 hnone
    exact hsent

/-- **The ways to carry a request out agree.**  If it has lines with the bindings inlined, these are the texts that a
connection sends in order, each with a semicolon; the entries that it makes have them as their literals, and so have
the entries given back when it pretends, which sends nothing.  A request that does not compile fails alike everywhere,
and nothing happens. -/
theorem literalLines_agree (config : ConnectionConfig) (raw : RawConnection) (request : Request)
    (hskip : config.options.skipConstraints = false) (hraw : raw.Succeeds) :
    (∀ lines, request.literalLines config = .ok lines → ∃ texts, lines = texts.map (· ++ ";") ∧
      (∀ s, s.pretending = false → ∃ sent added,
        (on (carryOut ⟨config, raw⟩ request) s).2 = { s with sent := sent ++ s.sent, log := s.log ++ added } ∧
          (sent.map Sent.sql).reverse = texts ∧
          added.map LoggedQuery.literal = if s.logging then texts else []) ∧
      ∀ s, ∃ inner log,
        (on (perform ⟨config, raw⟩ (.pretend [.request request])) s).1 = .ok (.pretended inner (.ok log)) ∧
          log.map LoggedQuery.literal = texts ∧
          (on (perform ⟨config, raw⟩ (.pretend [.request request])) s).2.sent = s.sent) ∧
    ∀ error, request.compile config = .error error →
      request.literalLines config = .error (.grammar error) ∧
      ∀ s, on (carryOut ⟨config, raw⟩ request) s = (.error (.grammar error), s) := by
  refine ⟨fun lines hlines => ?_, fun error herror => ⟨literalLines_of_error herror, on_carryOut_of_error herror⟩⟩
  obtain ⟨fragments, texts, hcompile, htexts, rfl⟩ := exists_texts_of_literalLines hlines
  refine ⟨texts, rfl, fun s hs => ?_, exists_log_of_pretend hskip hraw hcompile htexts⟩
  have hcarried : CarriedOut texts s (on (carryOut ⟨config, raw⟩ request) s) := carriedOut hskip hraw hcompile htexts s
  obtain ⟨hpretending, hlogging, ⟨sent, hsent, hsql⟩, added, hadded, hliterals⟩ := hcarried.handed
  rw [hs] at hsql hliterals
  refine ⟨sent, added, ?_, ?_, hliterals⟩
  · rw [← hsent, ← hadded, ← hpretending, ← hlogging]
  · rw [hsql]
    exact List.reverse_reverse texts

/-- Enters a guest whose number is given as text, and asks for the identifier. -/
def enterGuest : Request :=
  .insertGetId { Query.empty with source := some (.name "guest") }
    (.ofList [("number", .value (.text " -3 ")), ("who", .value (.text "it's ?"))]) none

theorem literalLines_agree_enterGuest :
    enterGuest.literalLines { options := { skipConstraints := false } } =
        .ok ["insert into GUEST (NUMBER, WHO) values ((-3), 'it''s ?');",
          "select max(\"id\") as \"id\" from GUEST;"] ∧
      ∃ texts, ["insert into GUEST (NUMBER, WHO) values ((-3), 'it''s ?');",
          "select max(\"id\") as \"id\" from GUEST;"] = texts.map (· ++ ";") ∧
        ∃ sent added,
          (on (carryOut ⟨{ options := { skipConstraints := false } }, .willing⟩ enterGuest) { logging := true }).2 =
              { logging := true, log := added, sent := sent } ∧
            (sent.map Sent.sql).reverse = texts ∧ added.map LoggedQuery.literal = texts := by
  have hlines : enterGuest.literalLines { options := { skipConstraints := false } } =
      .ok ["insert into GUEST (NUMBER, WHO) values ((-3), 'it''s ?');",
        "select max(\"id\") as \"id\" from GUEST;"] := by
    decide +kernel
  obtain ⟨texts, htexts, hlive, -⟩ :=
    (literalLines_agree _ .willing enterGuest rfl RawConnection.succeeds_willing).1 _ hlines
  obtain ⟨sent, added, hafter, hsent, hadded⟩ := hlive { logging := true } rfl
  rw [List.append_nil, List.nil_append] at hafter
  exact ⟨hlines, texts, htexts, sent, added, hafter, hsent, hadded⟩

end Connection

end WarehouseSql
