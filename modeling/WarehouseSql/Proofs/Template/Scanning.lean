import Mathlib.Data.List.TakeWhile
import WarehouseSql.Proofs.Template.Symbols

/-!
The scanner and the automaton agree.  The scanner skips a region as a whole, the automaton goes through it character
by character; `Inside` says that both come out at the same place with no marker on the way.
-/

namespace WarehouseSql

namespace Template

open LexState

/-- A state from which the first character of a text is read as in code. -/
def ReadsCode (s : LexState) (cs : List Char) : Prop :=
  ∀ c, cs.head? = some c → s.isCode = true ∧ s.step c = afterCode c

lemma readsCode_nil (s : LexState) : ReadsCode s [] := fun _ h => by simp at h

lemma readsCode_code (cs : List Char) : ReadsCode .code cs := fun _ _ => ⟨rfl, rfl⟩

/-! ### regions -/

/-- A text cut after a region: from `s` on, no marker starts in the first part, and the second part is read as code. -/
structure Inside (s : LexState) (parts : List Char × List Char) : Prop where
  unmarked : ∀ before next, Unmarked s before next parts.1
  readsCode : ReadsCode (s.run parts.1) parts.2

lemma Inside.nil (s : LexState) : Inside s ([], []) := ⟨fun _ _ => trivial, readsCode_nil _⟩

lemma Inside.cons {s : LexState} {c : Char} {inside rest : List Char}
    (hc : ∀ before next, opensMarker s before next c = false) (h : Inside (s.step c) (inside, rest)) :
    Inside s (c :: inside, rest) :=
  ⟨fun _ _ => ⟨hc _ _, h.unmarked _ _⟩, h.readsCode⟩

lemma Inside.singleton {s : LexState} {c : Char} {rest : List Char}
    (hc : ∀ before next, opensMarker s before next c = false) (h : ReadsCode (s.step c) rest) :
    Inside s ([c], rest) :=
  .cons hc ⟨fun _ _ => trivial, h⟩

lemma inside_single (cs : List Char) : Inside .single (cutQuoted '\'' true cs) := by
  have hsingle := opensMarker_of_not_isCode (s := .single) rfl
  fun_induction cutQuoted '\'' true cs with
  | case1 => exact .nil _
  | case2 c => exact .singleton (fun _ _ => hsingle _ _ _) (readsCode_nil _)
  | case3 c d cs hc inside rest heq ih =>
    -- the character after a backslash is skipped
    rw [heq] at ih
    obtain rfl : c = '\\' := by simpa using hc
    exact .cons (fun _ _ => hsingle _ _ _) (.cons (fun _ _ => opensMarker_of_not_isCode rfl _ _ _) ih)
  | case4 cs inside rest heq _ ih =>
    -- a doubled quote ends the region and begins it again
    rw [heq] at ih
    exact .cons (fun _ _ => hsingle _ _ _) (.cons (fun _ _ => opensMarker_of_ne (by decide) (by decide)) ih)
  | case5 d cs => exact .singleton (fun _ _ => hsingle _ _ _) fun _ _ => ⟨rfl, rfl⟩
  | case6 c d cs hescape hquote inside rest heq ih =>
    rw [heq] at ih
    refine .cons (fun _ _ => hsingle _ _ _) ?_
    have hstep : LexState.step .single c = .single := by
      simp only [Bool.true_and, beq_iff_eq] at hescape
      simp [step, hescape, hquote]
    rwa [hstep]

lemma inside_double (cs : List Char) : Inside .double (cutQuoted '"' false cs) := by
  have hdouble := opensMarker_of_not_isCode (s := .double) rfl
  fun_induction cutQuoted '"' false cs with
  | case1 => exact .nil _
  | case2 c => exact .singleton (fun _ _ => hdouble _ _ _) (readsCode_nil _)
  | case3 c d cs hc => simp at hc
  | case4 cs inside rest heq _ ih =>
    rw [heq] at ih
    exact .cons (fun _ _ => hdouble _ _ _) (.cons (fun _ _ => opensMarker_of_ne (by decide) (by decide)) ih)
  | case5 d cs => exact .singleton (fun _ _ => hdouble _ _ _) fun _ _ => ⟨rfl, rfl⟩
  | case6 c d cs _ hquote inside rest heq ih =>
    rw [heq] at ih
    refine .cons (fun _ _ => hdouble _ _ _) ?_
    rwa [show LexState.step .double c = .double by simp [step, hquote]]

lemma inside_line (cs : List Char) : Inside .line (cutLine cs) := by
  have hline := opensMarker_of_not_isCode (s := .line) rfl
  fun_induction cutLine cs with
  | case1 => exact .nil _
  | case2 cs => exact .singleton (fun _ _ => hline _ _ _) (readsCode_code _)
  | case3 c cs hc inside rest heq ih =>
    rw [heq] at ih
    refine .cons (fun _ _ => hline _ _ _) ?_
    rwa [show LexState.step .line c = .line by simp [step, hc]]

/-- Half a closing pair changes nothing unless the other half follows. -/
lemma inside_block (cs : List Char) :
    Inside .block (cutAfterPair '*' '/' cs) ∧
      (cs.head? ≠ some '/' → Inside .blockStar (cutAfterPair '*' '/' cs)) := by
  have hblock := opensMarker_of_not_isCode (s := .block) rfl
  have hstar := opensMarker_of_not_isCode (s := .blockStar) rfl
  -- both states are needed: a star may be the first half of the closing pair
  fun_induction cutAfterPair '*' '/' cs with
  | case1 => exact ⟨.nil _, fun _ => .nil _⟩
  | case2 c =>
    exact ⟨.singleton (fun _ _ => hblock _ _ _) (readsCode_nil _),
      fun _ => .singleton (fun _ _ => hstar _ _ _) (readsCode_nil _)⟩
  | case3 c d cs h =>
    obtain ⟨rfl, rfl⟩ := h
    have hclose : Inside .blockStar (['/'], cs) := .singleton (fun _ _ => hstar _ _ _) (readsCode_code _)
    exact ⟨.cons (fun _ _ => hblock _ _ _) hclose, fun _ => .cons (fun _ _ => hstar _ _ _) hclose⟩
  | case4 c d cs h inside rest heq ih =>
    rw [heq] at ih
    have hnext : Inside (LexState.step .block c) (inside, rest) := by
      by_cases hc : c = '*'
      · subst hc
        exact ih.2 fun hd => h ⟨rfl, by simpa using hd⟩
      · rw [show LexState.step .block c = .block by simp [step, hc]]
        exact ih.1
    refine ⟨.cons (fun _ _ => hblock _ _ _) hnext, fun hc => .cons (fun _ _ => hstar _ _ _) ?_⟩
    rwa [show LexState.step .blockStar c = LexState.step .block c by
      simp only [List.head?_cons, ne_eq, Option.some.injEq] at hc
      simp [step, hc]]

lemma inside_dollar (cs : List Char) :
    Inside .dollarBlock (cutAfterPair '$' '$' cs) ∧
      (cs.head? ≠ some '$' → Inside .dollarBlockEnd (cutAfterPair '$' '$' cs)) := by
  have hblock := opensMarker_of_not_isCode (s := .dollarBlock) rfl
  have hend := opensMarker_of_not_isCode (s := .dollarBlockEnd) rfl
  fun_induction cutAfterPair '$' '$' cs with
  | case1 => exact ⟨.nil _, fun _ => .nil _⟩
  | case2 c =>
    exact ⟨.singleton (fun _ _ => hblock _ _ _) (readsCode_nil _),
      fun _ => .singleton (fun _ _ => hend _ _ _) (readsCode_nil _)⟩
  | case3 c d cs h =>
    obtain ⟨rfl, rfl⟩ := h
    have hclose : Inside .dollarBlockEnd (['$'], cs) := .singleton (fun _ _ => hend _ _ _) (readsCode_code _)
    exact ⟨.cons (fun _ _ => hblock _ _ _) hclose, fun hd => absurd rfl hd⟩
  | case4 c d cs h inside rest heq ih =>
    rw [heq] at ih
    have hnext : Inside (LexState.step .dollarBlock c) (inside, rest) := by
      by_cases hc : c = '$'
      · subst hc
        exact ih.2 fun hd => h ⟨rfl, by simpa using hd⟩
      · rw [show LexState.step .dollarBlock c = .dollarBlock by simp [step, hc]]
        exact ih.1
    refine ⟨.cons (fun _ _ => hblock _ _ _) hnext, fun hc => .cons (fun _ _ => hend _ _ _) ?_⟩
    simp only [List.head?_cons, ne_eq, Option.some.injEq] at hc
    rw [show LexState.step .dollarBlockEnd c = .dollarBlock by simp [step, hc]]
    rwa [show LexState.step .dollarBlock c = .dollarBlock by simp [step, hc]] at hnext

/-- A region leads from code to code, or to the end of the text. -/
lemma inside_of_cutRegion? {s : LexState} {cs region rest : List Char} (hs : ReadsCode s cs)
    (h : cutRegion? cs = some (region, rest)) : Inside s (region, rest) := by
  have hfirst : ∀ {c : Char} {tail : List Char}, cs = c :: tail → s.step c = afterCode c := fun heq =>
    (hs _ (by rw [heq]; rfl)).2
  have opening : ∀ c : Char, c ≠ '?' → c ≠ ':' → ∀ t before next, opensMarker t before next c = false :=
    fun _ h1 h2 _ _ _ => opensMarker_of_ne h1 h2
  unfold cutRegion? at h
  split at h <;> simp only [Option.some.injEq, Prod.mk.injEq, reduceCtorEq] at h <;> obtain ⟨rfl, rfl⟩ := h
  · refine .cons (opening _ (by decide) (by decide) _) ?_
    rw [hfirst rfl]
    exact inside_single _
  · refine .cons (opening _ (by decide) (by decide) _) ?_
    rw [hfirst rfl]
    exact inside_double _
  · refine .cons (opening _ (by decide) (by decide) _) (.cons (opening _ (by decide) (by decide) _) ?_)
    rw [hfirst rfl]
    exact inside_line _
  · refine .cons (opening _ (by decide) (by decide) _) (.cons (opening _ (by decide) (by decide) _) ?_)
    rw [hfirst rfl]
    exact (inside_block _).1
  · refine .cons (opening _ (by decide) (by decide) _) (.cons (opening _ (by decide) (by decide) _) ?_)
    rw [hfirst rfl]
    exact (inside_dollar _).1

/-- Where no region starts, the character leaves the automaton in code, and the rest is read as such. -/
lemma readsCode_of_cutRegion?_eq_none {c : Char} {cs : List Char} (h : cutRegion? (c :: cs) = none) :
    ReadsCode (afterCode c) cs := by
  intro d hd
  obtain ⟨cs, rfl⟩ : ∃ tail, cs = d :: tail := by
    cases cs with
    | nil => simp at hd
    | cons e tail => exact ⟨tail, by simp_all⟩
  rw [afterCode.eq_def c]
  split_ifs with h1 h2 h3 h4 h5
  · simp [h1, cutRegion?] at h
  · simp [h2, cutRegion?] at h
  · have hd' : d ≠ '-' := by rintro rfl; simp [h3, cutRegion?] at h
    exact ⟨rfl, by simp [step, hd', afterCode]⟩
  · have hd' : d ≠ '*' := by rintro rfl; simp [h4, cutRegion?] at h
    exact ⟨rfl, by simp [step, hd', afterCode]⟩
  · have hd' : d ≠ '$' := by rintro rfl; simp [h5, cutRegion?] at h
    exact ⟨rfl, by simp [step, hd', afterCode]⟩
  · exact ⟨rfl, by simp [step, afterCode]⟩

/-! ### the scanner -/

lemma exists_symbols_positional (named : String → Option String) (literals : List String) (segments : List Segment) :
    ∃ literal rest, symbols named literals (.positional :: segments) =
      .positional literal :: symbols named rest segments := by
  cases literals with
  | nil => exact ⟨_, _, rfl⟩
  | cons literal rest => exact ⟨_, _, rfl⟩

lemma opensMarker_eq_false_of_not {s : LexState} {before next : Option Char} {c : Char} (hpositional : c ≠ '?')
    (hnamed : ¬ (c = ':' ∧ allowsMarker before = true ∧ next.any startsName = true)) :
    opensMarker s before next c = false := by
  by_contra hopens
  simp only [opensMarker, Bool.not_eq_false, Bool.and_eq_true, Bool.or_eq_true, beq_iff_eq] at hopens
  obtain ⟨-, hmark | ⟨⟨hcolon, hallows⟩, hstarts⟩⟩ := hopens
  · exact hpositional hmark
  · exact hnamed ⟨hcolon, hallows, hstarts⟩

lemma continuesName_of_startsName {c : Char} (h : startsName c = true) : continuesName c = true := by
  simp only [startsName, continuesName, Char.isAlphanum, Bool.or_eq_true] at h ⊢
  exact h.imp_left .inl

lemma exists_takeWhile_continuesName {cs : List Char} (h : cs.head?.any startsName = true) :
    ∃ d name, cs.takeWhile continuesName = d :: name ∧ startsName d = true := by
  cases cs with
  | nil => simp at h
  | cons d cs =>
    have hstarts : startsName d = true := by simpa using h
    exact ⟨d, cs.takeWhile continuesName, List.takeWhile_cons_of_pos (continuesName_of_startsName hstarts), hstarts⟩

lemma standsAt_named {s : LexState} {before : Option Char} {cs literal : List Char} (hs : s.isCode = true)
    (hbefore : allowsMarker before = true) (hstarts : cs.head?.any startsName = true) :
    StandsAt s before (cs.dropWhile continuesName).head?
      (.named (String.ofList (cs.takeWhile continuesName)) literal) := by
  obtain ⟨d, name, hname, hd⟩ := exists_takeWhile_continuesName hstarts
  refine ⟨hs, hbefore, ?_, ?_, ?_⟩
  · rw [String.toList_ofList, hname]
    simpa using hd
  · rw [String.toList_ofList]
    exact fun c hc => List.mem_takeWhile_imp hc
  · cases hrest : cs.dropWhile continuesName with
    | nil => rfl
    | cons d rest => simpa [hrest] using List.head?_dropWhile_not continuesName cs

/-- **A text scans as the symbols of its segments.** -/
theorem scans_segmentsAfter (named : String → Option String) (literals : List String) {s : LexState}
    (before : Option Char) {cs : List Char} (hs : ReadsCode s cs) :
    Scans s before (symbols named literals (segmentsAfter before cs)) ∧
      source (symbols named literals (segmentsAfter before cs)) = cs := by
  fun_induction segmentsAfter before cs generalizing literals s with
  | case1 before => exact ⟨trivial, rfl⟩
  | case2 before c cs region rest h ih =>
    obtain ⟨happend, hne⟩ := append_of_cutRegion? h
    have hinside := inside_of_cutRegion? hs h
    obtain ⟨hscans, hsource⟩ := ih literals hinside.readsCode
    have hlast : region.getLast?.or before = region.getLast? := by
      rw [List.getLast?_eq_some_getLast hne, Option.some_or]
    rw [symbols_consText, source_append, source_chars, hsource, scans_chars_append, hlast]
    exact ⟨⟨hinside.unmarked _ _, hscans⟩, happend⟩
  | case3 before cs h ih =>
    have hcode : s.isCode = true := (hs _ rfl).1
    obtain ⟨literal, rest, heq⟩ := exists_symbols_positional named literals (segmentsAfter (some '?') cs)
    obtain ⟨hscans, hsource⟩ := ih rest (readsCode_code cs)
    rw [heq]
    exact ⟨⟨hcode, hscans⟩, congrArg ('?' :: ·) hsource⟩
  | case4 before c cs h hne hmark name ih =>
    obtain ⟨rfl, hbefore, hstarts⟩ := hmark
    have hcode : s.isCode = true := (hs _ rfl).1
    obtain ⟨hscans, hsource⟩ := ih literals (readsCode_code _)
    obtain ⟨d, tail, hname, -⟩ := exists_takeWhile_continuesName hstarts
    have hlast : (':' :: name).getLast? = name.getLast? := by simp [name, hname]
    have htext : name ++ cs.dropWhile continuesName = cs := List.takeWhile_append_dropWhile
    refine ⟨⟨?_, ?_⟩, ?_⟩
    · rw [hsource]
      exact standsAt_named hcode hbefore hstarts
    · simpa [Symbol.source, hlast, afterSymbol] using hscans
    · simp [Symbol.source, symbols, hsource, htext]
  | case5 before c cs h hne hmark ih =>
    obtain ⟨hcode, hstep⟩ := hs c rfl
    obtain ⟨hscans, hsource⟩ := ih literals (hstep ▸ readsCode_of_cutRegion?_eq_none h)
    rw [symbols_consText]
    refine ⟨⟨?_, hscans⟩, by simp [chars, Symbol.source, hsource]⟩
    show opensMarker s before (source (symbols named literals (segmentsAfter (some c) cs))).head? c = false
    rw [hsource]
    exact opensMarker_eq_false_of_not hne hmark

/-- The symbols of a statement with given literals. -/
def symbolsOf (sql : String) (literals : List String) (named : String → Option String) : List Symbol :=
  symbols named literals (parse sql).segments

lemma scans_symbolsOf (sql : String) (literals : List String) (named : String → Option String) :
    Scans .code none (symbolsOf sql literals named) :=
  (scans_segmentsAfter named literals none (readsCode_code _)).1

lemma source_symbolsOf (sql : String) (literals : List String) (named : String → Option String) :
    source (symbolsOf sql literals named) = sql.toList :=
  (scans_segmentsAfter named literals none (readsCode_code _)).2

lemma render_eq_written (sql : String) (literals : List String) (named : String → Option String) :
    ((parse sql).render literals named).toList = written (symbolsOf sql literals named) := by
  simp [render, fill_eq_written, symbolsOf]

/-! ### one reading only -/

lemma eq_of_append_of_continuesName {as bs as' bs' : List Char} (h : as ++ bs = as' ++ bs')
    (ha : ∀ c ∈ as, continuesName c = true) (ha' : ∀ c ∈ as', continuesName c = true)
    (hb : bs.head?.any continuesName = false) (hb' : bs'.head?.any continuesName = false) : as = as' := by
  have hcut : ∀ {cs ds : List Char}, (∀ c ∈ cs, continuesName c = true) → ds.head?.any continuesName = false →
      (cs ++ ds).takeWhile continuesName = cs := by
    intro cs ds hcs hds
    rw [List.takeWhile_append_of_pos hcs]
    cases ds with
    | nil => simp
    | cons d ds => simp_all
  rw [← hcut ha hb, h, hcut ha' hb']

/-- Symbols that start alike and read from the same state are the same but for their literals. -/
lemma bare_eq_of_standsAt {s : LexState} {before : Option Char} {x y : Symbol} {m n : List Symbol}
    (hsource : x.source ++ source m = y.source ++ source n) (hx : StandsAt s before (source m).head? x)
    (hy : StandsAt s before (source n).head? y) : x.bare = y.bare := by
  have hpositional : ∀ {c : Char} {next : Option Char}, s.isCode = true → opensMarker s before next c = false →
      c ≠ '?' := by
    rintro c next hs h rfl
    simp [opensMarker, hs] at h
  have hnamed : ∀ {c : Char} {name : String} {rest tail : List Char}, s.isCode = true →
      allowsMarker before = true → name.toList.head?.any startsName = true →
      opensMarker s before rest.head? c = false → c :: rest ≠ ':' :: (name.toList ++ tail) := by
    intro c name rest tail hs hb hn h heq
    obtain ⟨rfl, rfl⟩ := List.cons.inj heq
    cases hname : name.toList with
    | nil => simp [hname] at hn
    | cons d ds => simp_all [opensMarker]
  -- a character at which no marker starts is not read like a marker
  cases x with
  | char c =>
    cases y with
    | char d => exact congrArg Symbol.char (List.cons.inj hsource).1
    | positional _ => exact absurd (List.cons.inj hsource).1 (hpositional hy hx)
    | named name _ => exact absurd hsource (hnamed hy.1 hy.2.1 hy.2.2.1 hx)
  | positional _ =>
    cases y with
    | char d => exact absurd (List.cons.inj hsource).1.symm (hpositional hx hy)
    | positional _ => rfl
    | named name _ => simp [Symbol.source] at hsource
  | named name _ =>
    cases y with
    | char d => exact absurd hsource.symm (hnamed hx.1 hx.2.1 hx.2.2.1 hy)
    | positional _ => simp [Symbol.source] at hsource
    | named name' _ =>
      have htail := (List.cons.inj hsource).2
      have hname := eq_of_append_of_continuesName htail hx.2.2.2.1 hy.2.2.2.1 hx.2.2.2.2 hy.2.2.2.2
      simp [Symbol.bare, String.toList_inj.1 hname]

lemma afterSymbol_bare (s : LexState) (x : Symbol) : afterSymbol s x.bare = afterSymbol s x := by cases x <;> rfl

/-- **A text scans in one way only.** -/
theorem bare_eq_of_scans {s : LexState} {before : Option Char} {m n : List Symbol} (hm : Scans s before m)
    (hn : Scans s before n) (h : source m = source n) : m.map Symbol.bare = n.map Symbol.bare := by
  induction m generalizing s before n with
  | nil =>
    cases n with
    | nil => rfl
    | cons y n => cases y <;> simp [Symbol.source] at h
  | cons x m ih =>
    cases n with
    | nil => cases x <;> simp [Symbol.source] at h
    | cons y n =>
      have hbare := bare_eq_of_standsAt h hm.1 hn.1
      have hxy : x.source = y.source := by rw [← Symbol.source_bare x, hbare, Symbol.source_bare]
      have hafter : afterSymbol s x = afterSymbol s y := by
        rw [← afterSymbol_bare, hbare, afterSymbol_bare]
      rw [source_cons, source_cons, hxy] at h
      have htail := ih hm.2 (n := n) (by rw [hxy, hafter]; exact hn.2) (List.append_cancel_left h)
      rw [List.map_cons, List.map_cons, hbare, htail]

end Template

end WarehouseSql
