import WarehouseSql.Proofs.Template.Scanning
import WarehouseSql.Proofs.Value.Literal

/-!
What inlining does to the reading of a statement.  A template and the statement with its literals are read side by
side: at the end of every symbol the two states agree (`agrees_run`), but that the statement may have just closed the
quotes of a literal.  Two facts follow.

* **The template keeps its reading exactly when no quotes touch** (`keepsReading_iff`): a quoted literal beside
  a quote of the template, or beside another quoted literal, is read as one region with it.
* **The statement has no marker exactly when no keyword stands after an opening colon** (`unmarked_written_iff`).
-/

namespace WarehouseSql

namespace Template

open LexState

/-- Every marker has a literal in its place. -/
def Filled (m : List Symbol) : Prop := ∀ x ∈ m, x.isMarker = true → LiteralForm x.written

/-- A quote at the end of one symbol stands beside a quote at the start of the next, and one of the two is a marker. -/
def QuotesTouch (m : List Symbol) : Prop :=
  ∃ before x y after, m = before ++ x :: y :: after ∧ (x.isMarker = true ∨ y.isMarker = true) ∧
    x.written.getLast? = some '\'' ∧ y.written.head? = some '\''

/-- With literals in place of its markers, a template is read as before: its own characters are in the same regions,
and each literal begins and ends in code. -/
structure KeepsReading (m : List Symbol) : Prop where
  own : ∀ before c after, m = before ++ .char c :: after →
    regionAt (written m) (written before).length = regionAt (source m) (source before).length
  literal : ∀ before x after, m = before ++ x :: after → x.isMarker = true →
    regionAt (written m) (written before).length = .code ∧
      regionAt (written m) (written before ++ x.written).length = .code

/-- A marker that stands for a keyword follows a colon, and before the colon there is nothing or a character that a
marker may follow; `previous` is the character in front of the symbols. -/
def KeywordAfterColon (previous : Option Char) (m : List Symbol) : Prop :=
  ∃ before x after, m = before ++ .char ':' :: x :: after ∧ x.isMarker = true ∧
    allowsMarker ((written before).getLast?.or previous) = true ∧ String.ofList x.written ∈ keywords

lemma quotesTouch_cons {x y : Symbol} {m : List Symbol} :
    QuotesTouch (x :: y :: m) ↔
      ((x.isMarker = true ∨ y.isMarker = true) ∧ x.written.getLast? = some '\'' ∧ y.written.head? = some '\'') ∨
        QuotesTouch (y :: m) := by
  constructor
  · rintro ⟨before, z, w, after, hm, h⟩
    cases before with
    | nil =>
      obtain ⟨rfl, htail⟩ := List.cons.inj hm
      obtain ⟨rfl, rfl⟩ := List.cons.inj htail
      exact .inl h
    | cons v before =>
      obtain ⟨rfl, htail⟩ := List.cons.inj hm
      exact .inr ⟨before, z, w, after, htail, h⟩
  · rintro (h | ⟨before, z, w, after, hm, h⟩)
    · exact ⟨[], x, y, m, rfl, h⟩
    · exact ⟨x :: before, z, w, after, congrArg (x :: ·) hm, h⟩

instance decidableQuotesTouch : (m : List Symbol) → Decidable (QuotesTouch m)
  | [] => isFalse fun ⟨_, _, _, _, hm, _⟩ => by simp at hm
  | [x] => isFalse fun ⟨before, _, _, _, hm, _⟩ => by
      have := congrArg List.length hm
      simp at this
      omega
  | x :: y :: m =>
    have := decidableQuotesTouch (y :: m)
    decidable_of_iff' _ quotesTouch_cons

lemma keywordAfterColon_cons {previous : Option Char} {x : Symbol} {m : List Symbol} :
    KeywordAfterColon previous (x :: m) ↔
      (x = .char ':' ∧ allowsMarker previous = true ∧
        ∃ y ∈ m.head?, y.isMarker = true ∧ String.ofList y.written ∈ keywords) ∨
      KeywordAfterColon (x.written.getLast?.or previous) m := by
  have hlast : ∀ before : List Symbol, (written (x :: before)).getLast?.or previous =
      (written before).getLast?.or (x.written.getLast?.or previous) := by
    intro before
    rw [written_cons, List.getLast?_append, Option.or_assoc]
  constructor
  · rintro ⟨before, y, after, hm, hy, hallows, hkeyword⟩
    cases before with
    | nil =>
      obtain ⟨rfl, rfl⟩ := List.cons.inj hm
      exact .inl ⟨rfl, hallows, y, rfl, hy, hkeyword⟩
    | cons z before =>
      obtain ⟨rfl, rfl⟩ := List.cons.inj hm
      exact .inr ⟨before, y, after, rfl, hy, hlast before ▸ hallows, hkeyword⟩
  · rintro (⟨rfl, hallows, y, hhead, hy, hkeyword⟩ | ⟨before, y, after, rfl, hy, hallows, hkeyword⟩)
    · obtain ⟨after, rfl⟩ := List.head?_eq_some_iff.1 hhead
      exact ⟨[], y, after, rfl, hy, hallows, hkeyword⟩
    · exact ⟨x :: before, y, after, rfl, hy, by rwa [hlast], hkeyword⟩

instance decidableKeywordAfterColon : (previous : Option Char) → (m : List Symbol) →
    Decidable (KeywordAfterColon previous m)
  | _, [] => isFalse fun ⟨_, _, _, hm, _⟩ => by simp at hm
  | previous, x :: m =>
    have := decidableKeywordAfterColon (x.written.getLast?.or previous) m
    decidable_of_iff' _ keywordAfterColon_cons

/-! ### side by side -/

/-- The second state agrees with the first, or comes out of the quotes of a literal where the first is in code. -/
def Agrees (s t : LexState) : Prop := t = s ∨ s = .code ∧ t = .singleEnd

namespace Agrees

lemma refl (s : LexState) : Agrees s s := .inl rfl

lemma isCode {s t : LexState} (h : Agrees s t) : t.isCode = s.isCode := by
  rcases h with rfl | ⟨rfl, rfl⟩ <;> rfl

lemma step {s t : LexState} (h : Agrees s t) (c : Char) : t.step c = s.step c := by
  rcases h with rfl | ⟨rfl, rfl⟩ <;> rfl

end Agrees

lemma isCode_of_standsAt {s : LexState} {before next : Option Char} {x : Symbol} (hx : x.isMarker = true)
    (h : StandsAt s before next x) : s.isCode = true := by
  cases x with
  | char c => simp [Symbol.isMarker] at hx
  | positional _ => exact h
  | named name _ => exact h.1

/-- After a symbol the automaton is where the symbol says. -/
lemma run_source {s : LexState} {before next : Option Char} {x : Symbol} (h : StandsAt s before next x) :
    s.run x.source = afterSymbol s x := by
  cases x with
  | char c => rfl
  | positional _ => exact step_of_isCode h (by refine ⟨?_, ?_, ?_⟩ <;> decide)
  | named name _ =>
    have hcolon : s.step ':' = .code := step_of_isCode h.1 (by refine ⟨?_, ?_, ?_⟩ <;> decide)
    have hcalm : ∀ c ∈ name.toList, isCalm c = true := by
      intro c hc
      have hname := h.2.2.2.1 c hc
      by_contra hcalm
      simp only [isCalm, Bool.not_eq_true, Bool.not_eq_false', List.contains_eq_mem, decide_eq_true_eq,
        List.mem_cons, List.not_mem_nil, or_false] at hcalm
      rcases hcalm with rfl | rfl | rfl | rfl | rfl | rfl | rfl <;> exact absurd hname (by decide)
    show (s.step ':').run name.toList = .code
    rw [hcolon]
    exact (leads_of_isCalm (List.all_eq_true.2 hcalm)).run

lemma standsAt_of_scans {s : LexState} {before : Option Char} {m n : List Symbol} {x : Symbol}
    (h : Scans s before (m ++ x :: n)) :
    StandsAt (s.run (source m)) ((source m).getLast?.or before) (source n).head? x := by
  induction m generalizing s before with
  | nil => exact h.1
  | cons y m ih =>
    have htail := ih h.2
    have hlast : (source (y :: m)).getLast?.or before = (source m).getLast?.or y.source.getLast? := by
      rw [source_cons, List.getLast?_append, Option.or_assoc]
      cases y <;> simp [Symbol.source, List.getLast?_cons]
    rw [hlast, source_cons, run_append, run_source h.1]
    exact htail

lemma agrees_afterSymbol {s t : LexState} {before next : Option Char} {x : Symbol} (h : StandsAt s before next x)
    (hfilled : x.isMarker = true → LiteralForm x.written) (ha : Agrees s t) :
    Agrees (afterSymbol s x) (t.run x.written) := by
  cases hx : x.isMarker with
  | false =>
    cases x with
    | char c => exact .inl (ha.step c)
    | positional _ => simp [Symbol.isMarker] at hx
    | named name _ => simp [Symbol.isMarker] at hx
  | true =>
    have hcode : afterSymbol s x = .code := by
      cases x with
      | char c => simp [Symbol.isMarker] at hx
      | positional _ => rfl
      | named name _ => rfl
    rw [hcode, ((hfilled hx).leads_of_isCode (ha.isCode ▸ isCode_of_standsAt hx h)).run]
    split_ifs
    · exact .inr ⟨rfl, rfl⟩
    · exact .refl _

/-- **Template and statement agree** at the end of every symbol. -/
theorem agrees_run {s t : LexState} {before : Option Char} {m n : List Symbol} (h : Scans s before (m ++ n))
    (hfilled : Filled m) (ha : Agrees s t) : Agrees (s.run (source m)) (t.run (written m)) := by
  induction m generalizing s t before with
  | nil => exact ha
  | cons x m ih =>
    rw [source_cons, written_cons, run_append, run_append, run_source h.1]
    exact ih h.2 (fun y hy => hfilled y (List.mem_cons_of_mem _ hy))
      (agrees_afterSymbol h.1 (hfilled x List.mem_cons_self) ha)

/-! ### regions -/

lemma regionAt_written (m n : List Symbol) :
    regionAt (written (m ++ n)) (written m).length = (LexState.run .code (written m)).region (written n).head? := by
  rw [written_append, regionAt_append]

lemma regionAt_source (m n : List Symbol) :
    regionAt (source (m ++ n)) (source m).length = (LexState.run .code (source m)).region (source n).head? := by
  rw [source_append, regionAt_append]

/-- In code the next character is code, but for the second half of a doubled quote. -/
lemma region_of_isCode {s : LexState} (hs : s.isCode = true) {next : Option Char}
    (hsingle : ¬ (s = .singleEnd ∧ next = some '\'')) (hdouble : ¬ (s = .doubleEnd ∧ next = some '"')) :
    s.region next = .code := by
  cases s <;> simp_all [isCode, region]

lemma written_ne_nil {m : List Symbol} (hfilled : Filled m) {x : Symbol} (hx : x ∈ m) : x.written ≠ [] := by
  cases hm : x.isMarker with
  | false => cases x <;> simp [Symbol.written, Symbol.isMarker] at hm ⊢
  | true =>
    obtain ⟨first, _, hhead, _⟩ := (hfilled x hx hm).exists_ends
    rintro hnil
    simp [hnil] at hhead

lemma exists_last_symbol {m : List Symbol} (hfilled : Filled m) {c : Char} (h : (written m).getLast? = some c) :
    ∃ before x, m = before ++ [x] ∧ x.written.getLast? = some c := by
  rcases List.eq_nil_or_concat m with rfl | ⟨before, x, rfl⟩
  · simp at h
  · rw [List.concat_eq_append] at hfilled h ⊢
    refine ⟨before, x, rfl, ?_⟩
    have hne := written_ne_nil hfilled (x := x) (by simp)
    obtain ⟨d, hd⟩ : ∃ d, x.written.getLast? = some d := ⟨_, List.getLast?_eq_some_getLast hne⟩
    simpa [List.getLast?_append, hd] using h

lemma exists_head_symbol {m : List Symbol} (hfilled : Filled m) {c : Char} (h : (written m).head? = some c) :
    ∃ x after, m = x :: after ∧ x.written.head? = some c := by
  cases m with
  | nil => simp at h
  | cons x after =>
    refine ⟨x, after, rfl, ?_⟩
    have hne := written_ne_nil hfilled (x := x) (by simp)
    cases hx : x.written with
    | nil => exact absurd hx hne
    | cons d ds => simpa [hx] using h

lemma step_quote_ne_code (s : LexState) : s.step '\'' ≠ .code := by
  cases s <;> simp [step, afterCode]

variable {m : List Symbol}

/-- Where the statement has just closed quotes, they are those of the symbol before. -/
lemma exists_quote_before {before after : List Symbol} (hfilled : Filled m) (hm : m = before ++ after)
    (h : LexState.run .code (written before) = .singleEnd) :
    ∃ before' x, before = before' ++ [x] ∧ x.written.getLast? = some '\'' :=
  exists_last_symbol (fun x hx => hfilled x (hm ▸ List.mem_append_left _ hx)) (getLast?_of_run_eq_singleEnd h)

lemma region_own_of_not_quotesTouch (hscans : Scans .code none m) (hfilled : Filled m) (hquotes : ¬ QuotesTouch m)
    {before after : List Symbol} {c : Char} (hm : m = before ++ .char c :: after) :
    regionAt (written m) (written before).length = regionAt (source m) (source before).length := by
  have hagrees := agrees_run (hm ▸ hscans) (fun x hx => hfilled x (hm ▸ List.mem_append_left _ hx)) (.refl .code)
  rw [hm, regionAt_written, regionAt_source]
  rcases hagrees with heq | ⟨hsource, hwritten⟩
  · rw [heq]
    rfl
  · rw [hsource, hwritten]
    have hc : c ≠ '\'' := by
      rintro rfl
      obtain ⟨before', x, rfl, hlast⟩ := exists_quote_before hfilled hm hwritten
      refine hquotes ⟨before', x, .char '\'', after, by simp [hm], .inl ?_, hlast, rfl⟩
      -- a quote of the template would leave the template elsewhere than in plain code
      cases x with
      | char d =>
        obtain rfl : d = '\'' := by simpa [Symbol.written] using hlast
        rw [source_append, run_append] at hsource
        exact absurd hsource (step_quote_ne_code _)
      | positional _ => rfl
      | named name _ => rfl
    exact region_of_isCode rfl (by simp [Symbol.written, hc]) (by simp)

lemma region_literal_of_not_quotesTouch (hscans : Scans .code none m) (hfilled : Filled m)
    (hquotes : ¬ QuotesTouch m) {before after : List Symbol} {x : Symbol} (hm : m = before ++ x :: after)
    (hx : x.isMarker = true) :
    regionAt (written m) (written before).length = .code ∧
      regionAt (written m) (written before ++ x.written).length = .code := by
  have hform := hfilled x (by simp [hm]) hx
  obtain ⟨first, last, hfirst, hlast, hbegins, -, hends⟩ := hform.exists_ends
  have hagrees := agrees_run (hm ▸ hscans) (fun y hy => hfilled y (hm ▸ List.mem_append_left _ hy)) (.refl .code)
  have hcode : (LexState.run .code (written before)).isCode = true := by
    rw [hagrees.isCode]
    exact isCode_of_standsAt hx (standsAt_of_scans (hm ▸ hscans))
  have hhead : (written (x :: after)).head? = some first := by simp [hfirst]
  constructor
  · rw [hm, regionAt_written, hhead]
    refine region_of_isCode hcode ?_ ?_
    · -- a quote right in front would touch the literal
      rintro ⟨hend, hquote⟩
      obtain ⟨before', y, rfl, hy⟩ := exists_quote_before hfilled hm hend
      exact hquotes ⟨before', y, x, after, by simp [hm], .inr hx, hy, by rw [hfirst, hquote]⟩
    · rintro ⟨-, hquote⟩
      rw [Option.some.inj hquote] at hbegins
      exact absurd hbegins (by decide)
  · have hsplit : m = (before ++ [x]) ++ after := by simp [hm]
    have hlength : written before ++ x.written = written (before ++ [x]) := by simp
    have hrun := (hform.leads_of_isCode hcode).run
    rw [← run_append] at hrun
    rw [hsplit, hlength, regionAt_written, ← hlength, hrun]
    split_ifs with hquote
    · -- and so would a quote right behind
      refine region_of_isCode rfl ?_ (by simp)
      rintro ⟨-, hnext⟩
      obtain ⟨y, after', rfl, hy⟩ :=
        exists_head_symbol (fun z hz => hfilled z (hm ▸ by simp [hz])) hnext
      refine hquotes ⟨before, x, y, after', hm, .inl hx, ?_, hy⟩
      rw [hlast, hends.1 (Option.some.inj (hfirst.symm.trans hquote))]
    · rfl

/-- Where quotes touch, the second one is read as part of the region of the first. -/
lemma regionAt_of_quotesTouch (hscans : Scans .code none m) (hfilled : Filled m) {before after : List Symbol}
    {x y : Symbol} (hm : m = before ++ x :: y :: after) (hmarker : x.isMarker = true ∨ y.isMarker = true)
    (hlast : x.written.getLast? = some '\'') (hhead : y.written.head? = some '\'') :
    regionAt (written m) (written before ++ x.written).length = .single := by
  have hbefore : ∀ z ∈ before, z ∈ m := fun z hz => hm ▸ List.mem_append_left _ hz
  have hagrees := agrees_run (hm ▸ hscans) (fun z hz => hfilled z (hbefore z hz)) (.refl .code)
  have hsplit : m = (before ++ [x]) ++ y :: after := by simp [hm]
  have hlength : written before ++ x.written = written (before ++ [x]) := by simp
  have hend : LexState.run .code (written (before ++ [x])) = .singleEnd := by
    rw [← hlength, run_append]
    cases hx : x.isMarker with
    | true =>
      have hform := hfilled x (by simp [hm]) hx
      obtain ⟨first, last, hfirst, hlast', -, -, hends⟩ := hform.exists_ends
      have hcode := isCode_of_standsAt hx (standsAt_of_scans (hm ▸ hscans))
      rw [(hform.leads_of_isCode (hagrees.isCode ▸ hcode)).run, if_pos]
      rw [hfirst, hends.2 (Option.some.inj (hlast'.symm.trans hlast))]
    | false =>
      -- a quote of the template in front of a marker closes its region
      have hy : y.isMarker = true := hmarker.resolve_left (by simp [hx])
      cases x with
      | char c =>
        obtain rfl : c = '\'' := by simpa [Symbol.written] using hlast
        have hcode := isCode_of_standsAt hy (standsAt_of_scans (hsplit ▸ hscans))
        rw [source_append, run_append] at hcode
        have hsingle := eq_single_of_step_quote hcode
        rcases hagrees with heq | ⟨hsource, -⟩
        · rw [heq, hsingle]
          rfl
        · rw [hsource] at hsingle
          exact absurd hsingle (by decide)
      | positional _ => simp [Symbol.isMarker] at hx
      | named name _ => simp [Symbol.isMarker] at hx
  have hnext : (written (y :: after)).head? = some '\'' := by simp [hhead]
  rw [hsplit, hlength, regionAt_written, hend, hnext]
  rfl

/-- **A template keeps its reading exactly when no quotes touch.** -/
theorem keepsReading_iff (hscans : Scans .code none m) (hfilled : Filled m) :
    KeepsReading m ↔ ¬ QuotesTouch m := by
  constructor
  · rintro hkeeps ⟨before, x, y, after, hm, hmarker, hlast, hhead⟩
    have hsingle := regionAt_of_quotesTouch hscans hfilled hm hmarker hlast hhead
    have hcode : regionAt (written m) (written before ++ x.written).length = .code := by
      rcases hmarker with hx | hy
      · exact (hkeeps.literal before x (y :: after) hm hx).2
      · simpa using (hkeeps.literal (before ++ [x]) y after (by simp [hm]) hy).1
    rw [hsingle] at hcode
    exact absurd hcode (by decide)
  · intro hquotes
    exact ⟨fun _ _ _ hm => region_own_of_not_quotesTouch hscans hfilled hquotes hm,
      fun _ _ _ hm hx => region_literal_of_not_quotesTouch hscans hfilled hquotes hm hx⟩

/-! ### markers in the statement -/

lemma isCode_of_step_colon {s : LexState} (h : (s.step ':').isCode = true) : s.isCode = true := by
  cases s <;> simp_all [step, afterCode, isCode]

lemma allowsMarker_of_continuesName {c : Char} (h : continuesName c = true) : allowsMarker (some c) = false := by
  by_contra hc
  simp only [allowsMarker, Bool.not_eq_false, List.contains_eq_mem, decide_eq_true_eq, List.mem_cons,
    List.not_mem_nil, or_false] at hc
  rcases hc with rfl | rfl | rfl | rfl | rfl | rfl | rfl | rfl | rfl | rfl | rfl | rfl | rfl <;>
    exact absurd h (by decide)

/-- No marker follows directly on a marker. -/
lemma allowsMarker_source {s : LexState} {before next : Option Char} {x : Symbol} (hx : x.isMarker = true)
    (h : StandsAt s before next x) : allowsMarker x.source.getLast? = false := by
  cases x with
  | char c => simp [Symbol.isMarker] at hx
  | positional _ => rfl
  | named name _ =>
    obtain ⟨-, -, hstarts, hall, -⟩ := h
    have hne : name.toList ≠ [] := by
      rintro hnil
      simp [hnil] at hstarts
    have hlast : (Symbol.source (.named name [])).getLast? = some (name.toList.getLast hne) := by
      simp [Symbol.source, List.getLast?_cons, List.getLast?_eq_some_getLast hne]
    exact (congrArg allowsMarker hlast).trans (allowsMarker_of_continuesName (hall _ (List.getLast_mem hne)))

lemma allowsMarker_written {cs : List Char} (h : LiteralForm cs) (previous : Option Char) :
    allowsMarker (cs.getLast?.or previous) = false := by
  obtain ⟨_, last, -, hlast, -, hends, -⟩ := h.exists_ends
  rw [hlast]
  simp only [endsLiteral, Bool.and_eq_true, Bool.not_eq_true'] at hends
  exact hends.2

/-- A character of the template opens a marker in the statement exactly where it is a colon that a marker may stand
at, in front of a keyword. -/
lemma opensMarker_written_iff {s t : LexState} {before previous : Option Char} {c : Char}
    (h : Scans s before (.char c :: m)) (hfilled : Filled m) (ha : Agrees s t)
    (hp : allowsMarker before = allowsMarker previous) :
    opensMarker t previous (written m).head? c = true ↔
      c = ':' ∧ allowsMarker previous = true ∧
        ∃ y ∈ m.head?, y.isMarker = true ∧ String.ofList y.written ∈ keywords := by
  have hopens : opensMarker s before (source m).head? c = false := h.1
  have hsame : ∀ next, opensMarker t previous next c = opensMarker s before next c := fun next => by
    rw [opensMarker, opensMarker, ha.isCode, hp]
  rw [hsame]
  -- what comes next: nothing, a character of the template, or a literal
  cases m with
  | nil => simpa using hopens
  | cons y after =>
    cases hy : y.isMarker with
    | false =>
      have hhead : (written (y :: after)).head? = (source (y :: after)).head? := by
        cases y <;> simp_all [Symbol.isMarker, Symbol.written, Symbol.source]
      rw [hhead, hopens]
      simp [hy]
    | true =>
      have hform := hfilled y List.mem_cons_self hy
      have hhead : (written (y :: after)).head? = y.written.head? := by
        obtain ⟨first, _, hfirst, -⟩ := hform.exists_ends
        simp [hfirst]
      have hcode : (s.step c).isCode = true := isCode_of_standsAt hy h.2.1
      rw [hhead, ← hp]
      constructor
      · intro hmark
        simp only [opensMarker, Bool.and_eq_true, Bool.or_eq_true, beq_iff_eq] at hmark
        obtain ⟨hs, rfl | ⟨⟨rfl, hallows⟩, hstarts⟩⟩ := hmark
        · simp [opensMarker, hs] at hopens
        · exact ⟨rfl, hallows, y, rfl, hy, hform.startsName_iff.1 hstarts⟩
      · rintro ⟨rfl, hallows, z, hz, -, hkeyword⟩
        obtain rfl : y = z := Option.some.inj hz
        simp [opensMarker, isCode_of_step_colon hcode, hallows, hform.startsName_iff.2 hkeyword]

/-- **A marker starts in the statement exactly when a keyword stands after an opening colon.** -/
theorem unmarked_written_iff {s t : LexState} {before previous : Option Char} (h : Scans s before m)
    (hfilled : Filled m) (ha : Agrees s t) (hp : allowsMarker before = allowsMarker previous) :
    Unmarked t previous none (written m) ↔ ¬ KeywordAfterColon previous m := by
  induction m generalizing s t before previous with
  | nil => simp [Unmarked, KeywordAfterColon]
  | cons x m ih =>
    have htail : Filled m := fun y hy => hfilled y (List.mem_cons_of_mem _ hy)
    have hafter := agrees_afterSymbol h.1 (hfilled x List.mem_cons_self) ha
    rw [written_cons, unmarked_append, keywordAfterColon_cons, not_or]
    -- a character opens a marker as before, and within a literal none starts
    cases hx : x.isMarker with
    | false =>
      obtain ⟨c, rfl⟩ : ∃ c, x = .char c := by
        cases x with
        | char c => exact ⟨c, rfl⟩
        | positional _ => simp [Symbol.isMarker] at hx
        | named name _ => simp [Symbol.isMarker] at hx
      refine and_congr ?_ (ih h.2 htail hafter rfl)
      have hopens := opensMarker_written_iff h htail ha hp
      simp only [Symbol.char.injEq]
      rw [← hopens]
      simp [Symbol.written, Unmarked]
    | true =>
      have hform := hfilled x List.mem_cons_self hx
      have hcode : t.isCode = true := ha.isCode ▸ isCode_of_standsAt hx h.1
      have hallows := (allowsMarker_source hx h.1).trans (allowsMarker_written hform previous).symm
      refine and_congr ⟨fun _ => ?_, fun _ => ?_⟩ (ih h.2 htail hafter hallows)
      · rintro ⟨rfl, -⟩
        simp [Symbol.isMarker] at hx
      · exact (hform.leads_of_isCode hcode).unmarked _ _

end Template

end WarehouseSql
