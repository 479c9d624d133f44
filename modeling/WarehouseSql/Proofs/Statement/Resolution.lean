import WarehouseSql.Proofs.Statement.SingleUse
import WarehouseSql.Proofs.Template.Markers

/-!
The text that a statement resolves to, as the symbols of its template with the literals of its bindings
(`DeferredStatement.symbols`).  Two things can go wrong where a literal meets the template, and each has its exact
condition: **the text holds a marker when a keyword comes to stand after a colon** (`hasMarkers_sent_iff`), and **the
template is read in another way when a quoted literal touches a quote** (`keepsReading_inlined_iff`).
-/

namespace WarehouseSql

open Template

lemma Binding.literalForm (b : Binding) : LiteralForm b.literal.toList := b.value.literalForm_literal b.declared

lemma interpolate_eq_ok_iff {sql text : String} {values : List Value} :
    interpolate sql values = .ok text ↔
      (Template.parse sql).names = [] ∧ (Template.parse sql).positionalCount = values.length ∧
        text = (Template.parse sql).render (values.map (·.literal none)) fun _ => none := by
  rw [interpolate]
  cases hnames : (Template.parse sql).names with
  | cons name names => simp
  | nil =>
    simp only [true_and]
    split_ifs with hcount
    · simp [hcount]
    · simp [not_not.1 hcount, eq_comm]

/-- **Interpolation writes the symbols of the statement**, each marker with a literal in its place. -/
theorem written_of_interpolate {sql text : String} {values : List Value} (h : interpolate sql values = .ok text) :
    text.toList = written (symbolsOf sql (values.map (·.literal none)) fun _ => none) ∧
      Filled (symbolsOf sql (values.map (·.literal none)) fun _ => none) := by
  obtain ⟨hnames, hcount, rfl⟩ := interpolate_eq_ok_iff.1 h
  refine ⟨render_eq_written _ _ _, filled_symbols ?_ ?_ ?_⟩
  · rw [List.length_map]
    exact hcount.symm
  · intro text htext
    obtain ⟨value, -, rfl⟩ := List.mem_map.1 htext
    exact value.literalForm_literal none
  · intro name hname
    have hnone : (parse sql).segments.filterMap Segment.name? = [] := hnames
    simp [hnone] at hname

namespace DeferredStatement

/-! ### outcomes -/

/-- A text without markers is skipped, sent as it is, or refused because of its values. -/
lemma resolve_of_not_hasMarkers {s : DeferredStatement} (h : s.template.hasMarkers = false) :
    s.resolve =
      if s.skipsConstraints = true ∧ isConstraint s.sql = true then .ok (.skip s.sql)
      else if s.positional = [] ∧ s.named = [] then .ok (.direct s.sql)
      else .error (.bindingArity 0 (s.positional.length + s.named.length)) := by
  have hnone : s.positional.length + s.named.length = 0 ↔ s.positional = [] ∧ s.named = [] := by
    rw [Nat.add_eq_zero_iff, List.length_eq_zero_iff, List.length_eq_zero_iff]
  simp only [resolve, h, Bool.not_false, if_true, Bool.and_eq_true, hnone]

/-- A text with markers takes its literals, unless the markers are of both kinds. -/
lemma resolve_of_hasMarkers {s : DeferredStatement} (h : s.template.hasMarkers = true) :
    s.resolve =
      if s.template.isMixed = true then .error .mixedPlaceholders
      else
        match s.positionalLiterals s.template, s.namedLiterals s.template with
        | .error error, _ => .error error
        | .ok _, .error error => .error error
        | .ok positional, .ok named => .ok (.literal (s.template.render positional named)) := by
  simp only [resolve, h, Bool.not_true, Bool.false_eq_true, if_false]
  cases s.positionalLiterals s.template <;> cases s.namedLiterals s.template <;> rfl

lemma resolve_eq_ok_skip_iff {s : DeferredStatement} {text : String} :
    s.resolve = .ok (.skip text) ↔
      s.template.hasMarkers = false ∧ (s.skipsConstraints = true ∧ isConstraint s.sql = true) ∧ text = s.sql := by
  cases h : s.template.hasMarkers with
  | false =>
    rw [resolve_of_not_hasMarkers h]
    split_ifs with hskip hnone
    · simpa [hskip] using eq_comm
    · simp [hskip]
    · simp [hskip]
  | true =>
    rw [resolve_of_hasMarkers h]
    split_ifs
    · simp
    · split <;> simp

lemma resolve_eq_ok_direct_iff {s : DeferredStatement} {text : String} :
    s.resolve = .ok (.direct text) ↔
      s.template.hasMarkers = false ∧ ¬ (s.skipsConstraints = true ∧ isConstraint s.sql = true) ∧
        (s.positional = [] ∧ s.named = []) ∧ text = s.sql := by
  cases h : s.template.hasMarkers with
  | false =>
    rw [resolve_of_not_hasMarkers h]
    split_ifs with hskip hnone
    · simp [hskip]
    · simpa [hskip, hnone] using eq_comm
    · simp [hskip, hnone]
  | true =>
    rw [resolve_of_hasMarkers h]
    split_ifs
    · simp
    · split <;> simp

lemma resolve_eq_ok_literal_iff {s : DeferredStatement} {text : String} :
    s.resolve = .ok (.literal text) ↔
      s.template.hasMarkers = true ∧ s.template.isMixed = false ∧ ∃ positional named,
        s.positionalLiterals s.template = .ok positional ∧ s.namedLiterals s.template = .ok named ∧
          text = s.template.render positional named := by
  cases h : s.template.hasMarkers with
  | false =>
    rw [resolve_of_not_hasMarkers h]
    split_ifs <;> simp
  | true =>
    rw [resolve_of_hasMarkers h]
    split_ifs with hmixed
    · simp [hmixed]
    · split <;> simp [*, eq_comm]

lemma positionalLiterals_eq_ok_iff {s : DeferredStatement} {t : Template} {texts : List String} :
    s.positionalLiterals t = .ok texts ↔
      texts = s.positional.map (fun entry => entry.2.literal) ∧
        (t.positionalCount = 0 ∧ s.positional = [] ∨
          0 < t.positionalCount ∧ s.named = [] ∧ s.positional.map Prod.fst = List.range' 1 t.positionalCount) := by
  have hcounted : ∀ n, (s.positional.length = n ∧ s.positional.map Prod.fst = List.range' 1 s.positional.length) ↔
      s.positional.map Prod.fst = List.range' 1 n := by
    intro n
    constructor
    · rintro ⟨rfl, hrange⟩
      exact hrange
    · intro hrange
      have hlength : s.positional.length = n := by simpa using congrArg List.length hrange
      exact ⟨hlength, hlength ▸ hrange⟩
  simp only [positionalLiterals]
  by_cases hnone : t.positionalCount = 0
  · rw [if_pos hnone]
    split_ifs with hempty
    · have hnil := List.length_eq_zero_iff.1 hempty
      simp [hnone, hnil, eq_comm]
    · have hne : s.positional ≠ [] := fun hnil => hempty (by simp [hnil])
      simp [hnone, hne]
  · rw [if_neg hnone]
    split
    · next hnamed => simp [hnone, hnamed]
    · next hnamed =>
      simp only [hcounted]
      split_ifs with hrange
      · simp [hnone, hnamed, hrange, Nat.pos_of_ne_zero hnone, eq_comm]
      · simp [hnone, hrange]

lemma namedLiterals_eq_ok_iff {s : DeferredStatement} {t : Template} {named : String → Option String} :
    s.namedLiterals t = .ok named ↔
      named = (fun name => (s.named.lookup name).map Binding.literal) ∧
        ∀ name, (s.named.lookup name).isSome = true ↔ name ∈ t.names := by
  have hbound : ∀ name, (s.named.lookup name).isSome = true ↔ name ∈ s.named.map Prod.fst := by
    intro name
    rw [List.lookup_isSome_iff, List.mem_map]
    exact ⟨fun ⟨entry, hentry, hname⟩ => ⟨entry, hentry, (beq_iff_eq.1 hname).symm⟩,
      fun ⟨entry, hentry, hname⟩ => ⟨entry, hentry, by simp [hname]⟩⟩
  simp only [namedLiterals]
  split
  · next name hmissing =>
    have hname := List.find?_some hmissing
    have hmem := List.mem_of_find?_eq_some hmissing
    simp only [reduceCtorEq, false_iff, not_and]
    intro _ hall
    have hsome := (hall name).2 hmem
    rw [Option.isNone_iff_eq_none.1 hname] at hsome
    exact absurd hsome (by simp)
  · next name hmissing hunused =>
    have hname := List.find?_some hunused
    have hmem := List.mem_of_find?_eq_some hunused
    simp only [reduceCtorEq, false_iff, not_and]
    intro _ hall
    simp [(hall name).1 ((hbound name).2 hmem)] at hname
  · next hmissing hunused =>
    have hmissing := List.find?_eq_none.1 hmissing
    have hunused := List.find?_eq_none.1 hunused
    simp only [Except.ok.injEq]
    refine ⟨fun h => ⟨h.symm, fun name => ⟨fun hname => ?_, fun hname => ?_⟩⟩, fun h => h.1.symm⟩
    · simpa using hunused name ((hbound name).1 hname)
    · simpa using hmissing name hname

/-! ### the text of a resolution -/

/-- The template with the literals of the bindings in place of its markers. -/
def symbols (s : DeferredStatement) : List Symbol :=
  symbolsOf s.sql (s.positional.map fun entry => entry.2.literal) fun name => (s.named.lookup name).map Binding.literal

/-- **A resolution writes the symbols of the statement**, each marker with a literal in its place. -/
theorem written_of_resolve {s : DeferredStatement} {resolution : Resolution} {text : Sent}
    (h : s.resolve = .ok resolution) (htext : resolution.sent? = some text) :
    text.sql.toList = written s.symbols ∧ Filled s.symbols := by
  cases resolution with
  | skip sql => cases htext
  | direct sql =>
    obtain ⟨hmarkers, -, -, rfl⟩ := resolve_eq_ok_direct_iff.1 h
    cases htext
    rw [symbols, symbolsOf_eq_chars hmarkers, written_chars]
    refine ⟨rfl, fun x hx hmarker => ?_⟩
    obtain ⟨c, -, rfl⟩ := List.mem_map.1 hx
    simp [Symbol.isMarker] at hmarker
  | literal sql =>
    obtain ⟨-, -, texts, named, hpositional, hnamed, rfl⟩ := resolve_eq_ok_literal_iff.1 h
    obtain ⟨rfl, hcount⟩ := positionalLiterals_eq_ok_iff.1 hpositional
    obtain ⟨rfl, hbound⟩ := namedLiterals_eq_ok_iff.1 hnamed
    cases htext
    refine ⟨render_eq_written _ _ _, filled_symbols ?_ ?_ ?_⟩
    · rcases hcount with ⟨hnone, hnil⟩ | ⟨-, -, hrange⟩
      · rw [hnil]
        exact hnone.symm
      · have hlength : s.positional.length = s.template.positionalCount := by simpa using congrArg List.length hrange
        rw [List.length_map]
        exact hlength
    · intro text htext
      obtain ⟨entry, -, rfl⟩ := List.mem_map.1 htext
      exact Binding.literalForm _
    · intro name hname
      obtain ⟨binding, hbinding⟩ := Option.isSome_iff_exists.1 ((hbound name).2 hname)
      exact ⟨binding.literal, by simp [hbinding], Binding.literalForm _⟩

/-! ### markers in what is sent -/

lemma hasMarkers_of_resolve {s : DeferredStatement} {resolution : Resolution} {text : Sent}
    (h : s.resolve = .ok resolution) (htext : resolution.sent? = some text) :
    (Template.parse text.sql).hasMarkers = true ↔ KeywordAfterColon none s.symbols := by
  obtain ⟨hwritten, hfilled⟩ := written_of_resolve h htext
  rw [← not_iff_not, Bool.not_eq_true, hasMarkers_eq_false_iff, hwritten]
  exact unmarked_written_iff (scans_symbolsOf _ _ _) hfilled (.refl _) rfl

/-- **A text that is sent holds a marker exactly when the bindings in force put a keyword after a colon** at which a
marker may stand. -/
theorem hasMarkers_sent_iff (sql : String) (skipsConstraints : Bool) (connection : RawConnection)
    (history : List Sent) (calls : List Call) {e : Event} {text : Sent}
    (he : e ∈ (fresh sql skipsConstraints).run connection history calls) (htext : e.sent = some text) :
    ∃ values, e.call = .execute values ∧
      ((Template.parse text.sql).hasMarkers = true ↔ KeywordAfterColon none (e.before.inForce values).symbols) := by
  obtain ⟨values, resolution, hcall, -, hresolve, hsent, -⟩ :=
    (shape_of_mem_run (sound_fresh sql skipsConstraints) he).2.of_sent htext
  exact ⟨values, hcall, hasMarkers_of_resolve hresolve hsent⟩

/-- A connection that answers no text. -/
def deadConnection : RawConnection := ⟨fun _ => .error ⟨"08003", "not connected"⟩⟩

theorem hasMarkers_sent_null :
    ∃ e ∈ (fresh "select ? as \"?\", :? -- ?" false).run deadConnection []
        [.bindAll [.text "it's ?", .null], .execute none],
      e.sent = some ⟨.prepared, "select 'it''s ?' as \"?\", :null -- ?"⟩ ∧
        (Template.parse "select 'it''s ?' as \"?\", :null -- ?").hasMarkers = true := by
  have hsent : (((fresh "select ? as \"?\", :? -- ?" false).event deadConnection []
      (.bindAll [.text "it's ?", .null])).after.event deadConnection [] (.execute none)).sent =
      some ⟨.prepared, "select 'it''s ?' as \"?\", :null -- ?"⟩ := by
    decide +kernel
  refine ⟨_, .tail _ (.head _), hsent, ?_⟩
  obtain ⟨values, hcall, hmarkers⟩ := hasMarkers_sent_iff "select ? as \"?\", :? -- ?" false deadConnection []
    [.bindAll [.text "it's ?", .null], .execute none] (.tail _ (.head _)) hsent
  obtain rfl : values = none := (Call.execute.inj hcall).symm
  exact hmarkers.2 (by decide +kernel)

/-- A statement sends a text that holds a marker: its null stands after a colon. -/
theorem exists_marker_sent :
    ¬ ∀ (sql : String) (skipsConstraints : Bool) (connection : RawConnection) (history : List Sent)
        (calls : List Call),
      ∀ e ∈ (fresh sql skipsConstraints).run connection history calls, ∀ text, e.sent = some text →
        (Template.parse text.sql).hasMarkers = false := by
  intro h
  have hnone := h "select :?" false deadConnection [] [.bind 1 ⟨.null, none⟩, .execute none] _ (.tail _ (.head _))
    ⟨.prepared, "select :null"⟩ (by decide +kernel)
  exact absurd hnone (by decide +kernel)

/-! ### regions of what is sent -/

/-- A text with the literals of values in place of the markers of a statement, and the symbols that it is written from:
what a deferred statement resolves to, or what interpolation gives. -/
inductive Inlined (sql text : String) : List Symbol → Prop
  | resolved (s : DeferredStatement) (hsql : s.sql = sql) (h : s.resolve = .ok (.literal text)) :
      Inlined sql text s.symbols
  | interpolated (values : List Value) (h : interpolate sql values = .ok text) :
      Inlined sql text (symbolsOf sql (values.map (·.literal none)) fun _ => none)

namespace Inlined

variable {sql text text' : String} {m n : List Symbol}

lemma written_and_filled (h : Inlined sql text m) : text.toList = written m ∧ Filled m := by
  cases h with
  | resolved s hsql h =>
    have hsent : (Resolution.literal text).sent? = some ⟨.prepared, text⟩ := rfl
    exact written_of_resolve h hsent
  | interpolated values h => exact written_of_interpolate h

lemma scans (h : Inlined sql text m) : Scans .code none m := by
  cases h with
  | resolved s hsql h => exact scans_symbolsOf _ _ _
  | interpolated values h => exact scans_symbolsOf _ _ _

lemma source_eq (h : Inlined sql text m) : source m = sql.toList := by
  cases h with
  | resolved s hsql h => exact hsql ▸ source_symbolsOf _ _ _
  | interpolated values h => exact source_symbolsOf _ _ _

lemma keepsReading_iff (h : Inlined sql text m) : KeepsReading m ↔ ¬ QuotesTouch m :=
  Template.keepsReading_iff h.scans h.written_and_filled.2

end Inlined

/-- Where the reading is kept, a character of the template is read alike whatever the literals are. -/
lemma regionAt_eq_of_keepsReading {m n : List Symbol} (hm : KeepsReading m) (hn : KeepsReading n)
    (hsource : source m = source n) {before after before' after' : List Symbol} {c d : Char}
    (hc : m = before ++ .char c :: after) (hd : n = before' ++ .char d :: after')
    (hplace : (source before).length = (source before').length) :
    regionAt (written m) (written before).length = regionAt (written n) (written before').length := by
  rw [hm.own before c after hc, hn.own before' d after' hd, hsource, hplace]

/-- **Bound values leave the rest of a statement as it was read exactly when no quotes touch.**  With two sets of values
of which neither has touching quotes, the template's own characters are in the same regions. -/
theorem keepsReading_inlined_iff {sql text : String} {m : List Symbol} (h : Inlined sql text m) :
    source m = sql.toList ∧ text.toList = written m ∧ (KeepsReading m ↔ ¬ QuotesTouch m) ∧
      ∀ (text' : String) (n : List Symbol), Inlined sql text' n → ¬ QuotesTouch m → ¬ QuotesTouch n →
        ∀ before c after before' d after', m = before ++ .char c :: after → n = before' ++ .char d :: after' →
          (source before).length = (source before').length →
            regionAt text.toList (written before).length = regionAt text'.toList (written before').length := by
  refine ⟨h.source_eq, h.written_and_filled.1, h.keepsReading_iff, ?_⟩
  intro text' n hn hquotes hquotes' before c after before' d after' hc hd hplace
  rw [h.written_and_filled.1, hn.written_and_filled.1]
  have hsource : source m = source n := h.source_eq.trans hn.source_eq.symm
  exact regionAt_eq_of_keepsReading (h.keepsReading_iff.2 hquotes) (hn.keepsReading_iff.2 hquotes') hsource hc hd hplace

theorem keepsReading_inlined_select :
    interpolate "select ?, -? from \"it's ?\"" [.text "a'b --", .int (-1)] =
        .ok "select 'a''b --', -(-1) from \"it's ?\"" ∧
      KeepsReading (symbolsOf "select ?, -? from \"it's ?\"" ["'a''b --'", "(-1)"] fun _ => none) := by
  have h : interpolate "select ?, -? from \"it's ?\"" [.text "a'b --", .int (-1)] =
      .ok "select 'a''b --', -(-1) from \"it's ?\"" := by
    decide +kernel
  exact ⟨h, (keepsReading_inlined_iff (.interpolated _ h)).2.2.1.2 (by decide +kernel)⟩

/-- A bound text can change how the statement is read: its quotes join those in front of it. -/
theorem exists_reading_changed :
    ¬ ∀ (sql text : String) (m : List Symbol), Inlined sql text m → KeepsReading m := by
  intro h
  have hinlined : Inlined "select 'a'?" "select 'a''x'" (symbolsOf "select 'a'?" ["'x'"] fun _ => none) :=
    .interpolated [.text "x"] (by decide +kernel)
  have hcode := ((h _ _ _ hinlined).literal (chars "select 'a'".toList) (.positional "'x'".toList) []
    (by decide +kernel) rfl).1
  exact absurd hcode (by decide +kernel)

end DeferredStatement

end WarehouseSql
