import WarehouseSql.Proofs.Fragment.Inlines
import WarehouseSql.Proofs.Fragment.Nesting
import WarehouseSql.Proofs.Name.Spelling
import WarehouseSql.Proofs.Template.Splicing

/-!
Fragments that are complete in themselves.  A self-contained fragment has a placeholder for each of its bindings, no named
marker, and ends in code; it may be raw text with quotes and comments in it.  **Self-contained fragments stay so when they
are put together with gaps between them** (`SelfContained.append`, `Follows.gap_append`), since a gap is read alike after
anything that ends in code.  Trimming is different: it may take off the line break that ends a comment.  **A fragment may be
trimmed if its text stays closed without the blanks at its end** (`Sealed.trimmed`).
-/

namespace WarehouseSql

open LexState Template

/-! ### blanks at the end -/

lemma Text.trimEndChars_append (as bs : List Char) :
    Text.trimEndChars (as ++ bs) =
      if Text.trimEndChars bs = [] then Text.trimEndChars as else as ++ Text.trimEndChars bs := by
  induction bs using List.reverseRecOn with
  | nil => simp [Text.trimEndChars]
  | append_singleton bs c ih =>
    rw [← List.append_assoc, Token.trimEndChars_concat, Token.trimEndChars_concat, ih]
    by_cases hc : Text.isBlank c = true
    · rw [if_pos hc, if_pos hc]
    · rw [if_neg hc, if_neg hc, if_neg (by simp), List.append_assoc]

namespace LexState

lemma leads_of_isBlank {cs : List Char} (h : cs.all Text.isBlank = true) (s : LexState) : Leads s cs (s.run cs) := by
  induction cs generalizing s with
  | nil => exact .nil s
  | cons c cs ih =>
    rw [List.all_cons, Bool.and_eq_true] at h
    refine .cons (fun _ _ => opensMarker_of_ne ?_ ?_) (ih h.2 _)
    · rintro rfl
      exact absurd h.1 (by decide)
    · rintro rfl
      exact absurd h.1 (by decide)

lemma leads_line {cs : List Char} (h : '\n' ∉ cs) : Leads .line cs .line := by
  induction cs with
  | nil => exact .nil _
  | cons c cs ih =>
    rw [List.mem_cons, not_or] at h
    refine .cons (fun _ _ => opensMarker_of_not_isCode rfl _ _ _) ?_
    have hstep : LexState.step .line c = .line := if_neg (Ne.symm h.1)
    rw [hstep]
    exact ih h.2

/-- The only region that blanks may end is a line comment. -/
lemma eq_line_of_run_isBlank {cs : List Char} (h : cs.all Text.isBlank = true) {s : LexState} (hs : s.isCode = false)
    (hrun : (s.run cs).isCode = true) : s = .line := by
  induction cs generalizing s with
  | nil =>
    rw [run_nil, hs] at hrun
    cases hrun
  | cons c cs ih =>
    rw [List.all_cons, Bool.and_eq_true] at h
    have hne : ∀ d, Text.isBlank d = false → c ≠ d := by
      rintro d hd rfl
      rw [hd] at h
      cases h.1
    have hsingle := hne '\'' (by decide)
    have hdouble := hne '"' (by decide)
    have hslash := hne '/' (by decide)
    have hdollar := hne '$' (by decide)
    by_contra hline
    -- without the character that closes it, a region goes on
    have hstep : (s.step c).isCode = false ∧ s.step c ≠ .line := by
      cases s <;> simp_all [isCode, step] <;> split_ifs <;> simp
    exact hstep.2 (ih h.2 hstep.1 hrun)

end LexState

namespace Template

/-- A text without markers behind another one adds none, unless it goes on with a name. -/
lemma parse_append_of_leads {front rest : List Char} {t : LexState} (h : Leads (LexState.run .code front) rest t)
    (hnext : rest.head?.any continuesName = false) :
    (parse (String.ofList (front ++ rest))).names = (parse (String.ofList front)).names ∧
      (parse (String.ofList (front ++ rest))).positionalCount = (parse (String.ofList front)).positionalCount := by
  have hscans := scans_symbolsOf (String.ofList front) [] fun _ => none
  have hsource := source_symbolsOf (String.ofList front) [] fun _ => none
  generalize symbolsOf (String.ofList front) [] (fun _ => none) = m at hscans hsource
  have hwhole : Scans .code none (m ++ chars rest) := by
    refine scans_append hscans ?_ (by rwa [source_chars])
    rw [hsource, String.toList_ofList]
    exact scans_chars.2 (h.unmarked _ _)
  have htext : source (m ++ chars rest) = (String.ofList (front ++ rest)).toList := by
    rw [source_append, hsource, source_chars, String.toList_ofList, String.toList_ofList]
  rw [names_eq hwhole htext, positionalCount_eq hwhole htext, names_eq hscans hsource, positionalCount_eq hscans hsource]
  simp

end Template

namespace Fragment

variable {f g : Fragment}

@[simp] lemma append_empty (f : Fragment) : f ++ empty = f :=
  (Fragment.mk.injEq ..).mpr ⟨String.append_empty, List.append_nil _⟩

lemma text_append (a b : String) : text (a ++ b) = text a ++ text b := rfl

/-! ### readings -/

/-- From a state on, behind a character, a fragment reads with a placeholder for each binding, without named markers, and
ends in code. -/
def ReadsFrom (f : Fragment) (s : LexState) (before : Option Char) : Prop :=
  ∃ m, Scans s before m ∧ source m = f.sql.toList ∧ markerNames m = [] ∧ (literals m).length = f.bindings.length ∧
    (s.run f.sql.toList).isCode = true

/-- A fragment that can be scanned on its own: it has as many placeholders as bindings, no named marker, and ends outside
of every literal, identifier, comment and block. -/
structure SelfContained (f : Fragment) : Prop where
  names : (parse f.sql).names = []
  count : (parse f.sql).positionalCount = f.bindings.length
  closed : (LexState.run .code f.sql.toList).isCode = true

lemma selfContained_iff : f.SelfContained ↔ f.ReadsFrom .code none := by
  constructor
  · rintro ⟨hnames, hcount, hclosed⟩
    have hscans := scans_symbolsOf f.sql [] fun _ => none
    have hsource := source_symbolsOf f.sql [] fun _ => none
    rw [names_eq hscans hsource] at hnames
    rw [positionalCount_eq hscans hsource] at hcount
    exact ⟨_, hscans, hsource, hnames, hcount, hclosed⟩
  · rintro ⟨m, hscans, hsource, hnames, hcount, hclosed⟩
    exact ⟨(names_eq hscans hsource).trans hnames, (positionalCount_eq hscans hsource).trans hcount, hclosed⟩

namespace ReadsFrom

variable {s t : LexState} {before before' : Option Char}

lemma empty (hs : s.isCode = true) (before : Option Char) : Fragment.empty.ReadsFrom s before :=
  ⟨[], trivial, rfl, rfl, rfl, hs⟩

/-- Of what stands before, only matters whether a marker may follow it. -/
lemma congr (h : f.ReadsFrom s before) (hbefore : allowsMarker before = allowsMarker before') :
    f.ReadsFrom s before' := by
  obtain ⟨m, hscans, hrest⟩ := h
  refine ⟨m, ?_, hrest⟩
  cases m with
  | nil => trivial
  | cons x m =>
    refine ⟨?_, hscans.2⟩
    have hx : StandsAt s before (source m).head? x := hscans.1
    cases x with
    | char c =>
      have hc : opensMarker s before (source m).head? c = false := hx
      show opensMarker s before' (source m).head? c = false
      rwa [opensMarker, ← hbefore]
    | positional _ => exact hx
    | named name _ => exact ⟨hx.1, hbefore ▸ hx.2.1, hx.2.2⟩

lemma text_append {gap : String} (hgap : Leads s gap.toList t) (h : f.ReadsFrom t (gap.toList.getLast?.or before)) :
    (text gap ++ f).ReadsFrom s before := by
  obtain ⟨m, hscans, hsource, hnames, hcount, hclosed⟩ := h
  refine ⟨chars gap.toList ++ m, ?_, ?_, by simpa using hnames, by simpa using hcount, ?_⟩
  · rw [scans_chars_append, hgap.run]
    exact ⟨hgap.unmarked _ _, hscans⟩
  · rw [source_append, source_chars, hsource, sql_append, sql_text, String.toList_append]
  · rw [sql_append, sql_text, String.toList_append, run_append, hgap.run]
    exact hclosed

/-- A fragment behind another one, unless it goes on with a name. -/
lemma append (hf : f.ReadsFrom s before)
    (hg : g.ReadsFrom (s.run f.sql.toList) (f.sql.toList.getLast?.or before))
    (hnext : g.sql.toList.head?.any continuesName = false) : (f ++ g).ReadsFrom s before := by
  obtain ⟨m, hscans, hsource, hnames, hcount, -⟩ := hf
  obtain ⟨n, hscans', hsource', hnames', hcount', hclosed⟩ := hg
  refine ⟨m ++ n, ?_, ?_, ?_, ?_, ?_⟩
  · exact scans_append hscans (by rwa [hsource]) (by rwa [hsource'])
  · rw [source_append, hsource, hsource', sql_append, String.toList_append]
  · rw [markerNames_append, hnames, hnames', List.append_nil]
  · rw [literals_append, List.length_append, hcount, hcount', bindings_append, List.length_append]
  · rw [sql_append, String.toList_append, run_append]
    exact hclosed

end ReadsFrom

/-! ### putting together -/

/-- Fragments with a gap in front of each but the first. -/
def gapped : List (String × Fragment) → Fragment
  | [] => .empty
  | [part] => part.2
  | part :: next :: rest => part.2 ++ (text next.1 ++ gapped (next :: rest))

lemma join_eq_gapped (gap : String) (fs : List Fragment) : join gap fs = gapped (fs.map fun f => (gap, f)) := by
  induction fs with
  | nil => rfl
  | cons f fs ih =>
    cases fs with
    | nil => simp [join, gapped]
    | cons g fs =>
      rw [join_cons, append_assoc, ih]
      rfl

/-- A fragment that may follow whatever ends in code. -/
structure Follows (f : Fragment) : Prop where
  reads : ∀ s before, s.isCode = true → f.ReadsFrom s before
  next : f.sql.toList.head?.any continuesName = false

/-- A gap between fragments: calm characters, of which the first goes on with no name and completes no opening. -/
def isGap (gap : List Char) : Bool := gap.all isCalm && gap.head?.any fun c => !continuesName c && c != '*'

lemma isGap_cons {c : Char} {cs : List Char} (h : isGap (c :: cs) = true) :
    (c :: cs).all isCalm = true ∧ continuesName c = false ∧ completesNothing c := by
  simp only [isGap, List.head?_cons, Option.any_some, Bool.and_eq_true, Bool.not_eq_true', bne_iff_ne] at h
  obtain ⟨hcalm, hname, hstar⟩ := h
  refine ⟨hcalm, hname, ?_, hstar, ?_⟩
  · rintro rfl
    exact absurd (List.all_eq_true.1 hcalm _ List.mem_cons_self) (by decide)
  · rintro rfl
    exact absurd (List.all_eq_true.1 hcalm _ List.mem_cons_self) (by decide)

/-- A gap that a marker may follow. -/
def separates (gap : String) : Bool := isGap gap.toList && allowsMarker gap.toList.getLast?

variable {gap : String}

lemma exists_cons_of_isGap (h : isGap gap.toList = true) : ∃ c cs, gap.toList = c :: cs := by
  cases hgap : gap.toList with
  | nil =>
    rw [hgap] at h
    cases h
  | cons c cs => exact ⟨c, cs, rfl⟩

lemma leads_of_isGap {cs : List Char} (h : isGap cs = true) {s : LexState} (hs : s.isCode = true) : Leads s cs .code := by
  cases cs with
  | nil => cases h
  | cons c cs =>
    obtain ⟨hcalm, -, hcompletes⟩ := isGap_cons h
    exact (leads_of_isCalm hcalm).of_isCode hs hcompletes

lemma next_of_isGap (h : isGap gap.toList = true) (rest : String) :
    (gap ++ rest).toList.head?.any continuesName = false := by
  obtain ⟨c, cs, hgap⟩ := exists_cons_of_isGap h
  rw [hgap] at h
  rw [String.toList_append, hgap]
  exact (isGap_cons h).2.1

lemma isCode_run_of_prefix {cs : List Char} (h : isGap gap.toList = true) (hcs : cs <+: gap.toList) {s : LexState}
    (hs : s.isCode = true) : (s.run cs).isCode = true := by
  cases cs with
  | nil => exact hs
  | cons c cs =>
    have hprefix : isGap (c :: cs) = true := by
      obtain ⟨rest, hgap⟩ := hcs
      rw [← hgap, isGap, List.all_append, Bool.and_eq_true, Bool.and_eq_true] at h
      exact Bool.and_eq_true_iff.2 ⟨h.1.1, h.2⟩
    rw [(leads_of_isGap hprefix hs).run]
    rfl

namespace Follows

lemma of_gap (h : isGap gap.toList = true) : Follows (text gap) where
  reads s before hs := by
    rw [← append_empty (text gap)]
    exact .text_append (leads_of_isGap h hs) (.empty rfl _)
  next := by simpa using next_of_isGap h ""

lemma gap_append (h : separates gap = true) (hf : f.SelfContained) : Follows (text gap ++ f) where
  reads s before hs := by
    obtain ⟨hgap, hlast⟩ := Bool.and_eq_true_iff.1 h
    refine .text_append (leads_of_isGap hgap hs) ((selfContained_iff.1 hf).congr ?_)
    obtain ⟨c, cs, heq⟩ := exists_cons_of_isGap hgap
    rw [heq, List.getLast?_cons] at hlast ⊢
    rw [Option.some_or, hlast]
    rfl
  next := next_of_isGap (Bool.and_eq_true_iff.1 h).1 _

end Follows

namespace SelfContained

lemma empty : SelfContained .empty := selfContained_iff.2 (.empty rfl _)

/-- **What follows a self-contained fragment does not disturb it.** -/
lemma append (hf : f.SelfContained) (hg : Follows g) : (f ++ g).SelfContained :=
  selfContained_iff.2 ((selfContained_iff.1 hf).append (hg.reads _ _ hf.closed) hg.next)

lemma text_append {head : String} (hcalm : head.toList.all isCalm = true)
    (hlast : allowsMarker head.toList.getLast? = true) (hf : f.SelfContained) : (text head ++ f).SelfContained := by
  refine selfContained_iff.2 (.text_append (leads_of_isCalm hcalm) ((selfContained_iff.1 hf).congr ?_))
  rw [Option.or_none, hlast]
  rfl

/-- Fragments with a gap in front of each but the first. -/
lemma gapped {parts : List (String × Fragment)} (hgaps : ∀ part ∈ parts, separates part.1 = true)
    (h : ∀ part ∈ parts, part.2.SelfContained) : (gapped parts).SelfContained := by
  fun_induction Fragment.gapped parts with
  | case1 => exact empty
  | case2 part => exact h part List.mem_cons_self
  | case3 part next rest ih =>
    obtain ⟨hpart, htail⟩ := List.forall_mem_cons.1 h
    obtain ⟨-, hgapsTail⟩ := List.forall_mem_cons.1 hgaps
    exact hpart.append (.gap_append (hgapsTail next List.mem_cons_self) (ih hgapsTail htail))

lemma join (hgap : separates gap = true) {fs : List Fragment} (h : ∀ f ∈ fs, f.SelfContained) :
    (join gap fs).SelfContained := by
  rw [join_eq_gapped]
  refine gapped (fun part hpart => ?_) fun part hpart => ?_
  · obtain ⟨f, -, rfl⟩ := List.mem_map.1 hpart
    exact hgap
  · obtain ⟨f, hf, rfl⟩ := List.mem_map.1 hpart
    exact h f hf

lemma bindings_eq_nil (hf : f.SelfContained) (hsql : f.sql = "") : f.bindings = [] := by
  have hcount := hf.count
  have hempty : (parse "").positionalCount = 0 := by decide +kernel
  rw [hsql, hempty] at hcount
  exact List.length_eq_zero_iff.1 hcount.symm

lemma sentence {fs : List Fragment} (h : ∀ f ∈ fs, f.trimmed.SelfContained) : (sentence fs).SelfContained := by
  rw [sentence_eq fun f hf => (h f hf).bindings_eq_nil]
  refine .join (by decide) fun f hf => ?_
  obtain ⟨f', hf', rfl⟩ := List.mem_map.1 (List.mem_filter.1 hf).1
  exact h f' hf'

end SelfContained

/-! ### trimming -/

/-- A text still ends in code without the blanks at its end. -/
def StaysClosed (f : Fragment) : Prop := (LexState.run .code (Text.trimEndChars f.sql.toList)).isCode = true

/-- A self-contained fragment that may lose the blanks at its end. -/
structure Sealed (f : Fragment) : Prop extends SelfContained f where
  stays : f.StaysClosed

/-- A fragment that may follow whatever ends in code and lose the blanks at its end. -/
structure Completes (f : Fragment) : Prop extends Follows f where
  visible : Text.trimEndChars f.sql.toList ≠ []
  stays : ∀ s : LexState, s.isCode = true → (s.run (Text.trimEndChars f.sql.toList)).isCode = true

lemma isBlank_of_continuesName {c : Char} (h : continuesName c = true) : Text.isBlank c = false := by
  have hascii : c.toNat < 128 := toNat_lt_of_isNameChar (isNameChar_of_continuesName h)
  exact forall_ascii (P := fun c => continuesName c = true → Text.isBlank c = false) (by decide) hascii h

lemma head?_any_of_isBlank {cs : List Char} (h : cs.all Text.isBlank = true) :
    cs.head?.any continuesName = false := by
  cases cs with
  | nil => rfl
  | cons c cs =>
    rw [List.all_cons, Bool.and_eq_true] at h
    by_contra hc
    rw [Bool.not_eq_false] at hc
    rw [isBlank_of_continuesName hc] at h
    cases h.1

/-- **The blanks at the end of a fragment may be taken off** if its text stays closed. -/
lemma Sealed.trimmed (hf : f.Sealed) (hbegins : f.sql = "" ∨ Begins f.sql) : f.trimmed.SelfContained := by
  have hstart : Text.trimStartChars f.sql.toList = f.sql.toList := by
    rcases hbegins with hempty | hbegins
    · rw [hempty]
      rfl
    · rw [Begins, Option.any_eq_true] at hbegins
      obtain ⟨c, hhead, hc⟩ := hbegins
      obtain ⟨cs, heq⟩ := List.head?_eq_some_iff.1 hhead
      rw [heq, Text.trimStartChars, List.dropWhile_cons_of_neg (by simpa using hc)]
  have htrim : (Text.trim f.sql).toList = Text.trimEndChars f.sql.toList := by
    rw [Text.trim, Text.trimChars, hstart, String.toList_ofList]
  obtain ⟨blanks, happend, hblanks⟩ := Text.trimEndChars_append_blanks f.sql.toList
  have hparse := parse_append_of_leads (leads_of_isBlank hblanks (LexState.run .code (Text.trim f.sql).toList))
    (head?_any_of_isBlank hblanks)
  rw [htrim, happend, String.ofList_toList, ← htrim, String.ofList_toList] at hparse
  refine ⟨hparse.1.symm.trans hf.names, hparse.2.symm.trans hf.count, ?_⟩
  show (LexState.run .code (Text.trim f.sql).toList).isCode = true
  rw [htrim]
  exact hf.stays

/-- Behind a text a fragment stays closed if it does so on its own, and the text is in code all along. -/
lemma isCode_run_trimEndChars_append {s : LexState} (hgap : ∀ cs, cs <+: gap.toList → (s.run cs).isCode = true)
    (hrun : s.run gap.toList = .code) (hf : f.StaysClosed) :
    (s.run (Text.trimEndChars (text gap ++ f).sql.toList)).isCode = true := by
  rw [sql_append, sql_text, String.toList_append, Text.trimEndChars_append]
  split_ifs
  · obtain ⟨blanks, happend, -⟩ := Text.trimEndChars_append_blanks gap.toList
    exact hgap _ ⟨blanks, happend⟩
  · rw [run_append, hrun]
    exact hf

lemma Completes.of_gap (h : isGap gap.toList = true) (hvisible : Text.trimEndChars gap.toList ≠ []) :
    Completes (text gap) where
  toFollows := .of_gap h
  visible := hvisible
  stays s hs := by
    obtain ⟨blanks, happend, -⟩ := Text.trimEndChars_append_blanks gap.toList
    exact isCode_run_of_prefix h ⟨blanks, happend⟩ hs

/-- A gap and a sealed fragment behind it, one of which is more than blanks. -/
lemma Completes.gap_append (h : separates gap = true) (hf : f.Sealed)
    (hvisible : Text.trimEndChars gap.toList ≠ [] ∨ Text.trimEndChars f.sql.toList ≠ []) :
    Completes (text gap ++ f) where
  toFollows := .gap_append h hf.toSelfContained
  visible := by
    rw [sql_append, sql_text, String.toList_append, Text.trimEndChars_append]
    split_ifs with hblank
    · exact hvisible.resolve_right fun hne => hne hblank
    · exact fun hnil => hblank (List.append_eq_nil_iff.1 hnil).2
  stays s hs := by
    have hgap := (Bool.and_eq_true_iff.1 h).1
    exact isCode_run_trimEndChars_append (fun _ hcs => isCode_run_of_prefix hgap hcs hs) (leads_of_isGap hgap hs).run
      hf.stays

namespace Sealed

lemma append (hf : f.SelfContained) (hg : g.Completes) : (f ++ g).Sealed where
  toSelfContained := hf.append hg.toFollows
  stays := by
    rw [StaysClosed, sql_append, String.toList_append, Text.trimEndChars_append, if_neg hg.visible, run_append]
    exact hg.stays _ hf.closed

lemma text_append {head : String} (hcalm : head.toList.all isCalm = true)
    (hlast : allowsMarker head.toList.getLast? = true) (hf : f.Sealed) : (text head ++ f).Sealed where
  toSelfContained := hf.toSelfContained.text_append hcalm hlast
  stays := by
    refine isCode_run_trimEndChars_append (fun cs hcs => ?_) (leads_of_isCalm hcalm).run hf.stays
    have hcs' : cs.all isCalm = true := List.all_eq_true.2 fun c hc => List.all_eq_true.1 hcalm c (hcs.subset hc)
    rw [(leads_of_isCalm hcs').run]
    rfl

lemma empty : Sealed .empty := ⟨.empty, rfl⟩

end Sealed

/-- What comes of a condition, or of a list of them: it is self-contained, and sealed unless it ends with a raw text to which
the test does not apply. -/
structure SealedIf (atEnd : Fragment → Prop) (raw? : Option Fragment) (f : Fragment) : Prop extends SelfContained f where
  stays : (∀ g ∈ raw?, atEnd g) → f.StaysClosed

/-- The raw text at the end of a list of conditions. -/
def endRaw? (raws : List (Option Fragment)) : Option Fragment := raws.getLast?.join

lemma trimEndChars_ne_nil {text : String} (h : Begins text) : Text.trimEndChars text.toList ≠ [] := by
  rw [Begins, Option.any_eq_true] at h
  obtain ⟨c, hhead, hc⟩ := h
  obtain ⟨cs, heq⟩ := List.head?_eq_some_iff.1 hhead
  rw [heq, Text.trimEndChars]
  split <;> simp_all

lemma begins_gapped {parts : List (String × Fragment)} (hne : parts ≠ []) (h : ∀ part ∈ parts, Begins part.2.sql) :
    Begins (gapped parts).sql := by
  fun_cases gapped parts with
  | case1 => exact absurd rfl hne
  | case2 part => exact h part List.mem_cons_self
  | case3 part next rest => exact (h part List.mem_cons_self).append _

/-- **Fragments with gaps between them are sealed if the last one is**, and self-contained in any case. -/
lemma SealedIf.gapped {atEnd : Fragment → Prop} {raws : List (Option Fragment)} {parts : List (String × Fragment)}
    (h : List.Forall₂ (fun raw? part => SealedIf atEnd raw? part.2) raws parts)
    (hgaps : ∀ part ∈ parts, separates part.1 = true)
    (hvisible : (∀ part ∈ parts, Text.trimEndChars part.1.toList ≠ []) ∨ ∀ part ∈ parts, Begins part.2.sql) :
    SealedIf atEnd (endRaw? raws) (gapped parts) := by
  induction h with
  | nil => exact ⟨.empty, fun _ => Sealed.empty.stays⟩
  | @cons raw? part raws parts hpart hparts ih =>
    cases hparts with
    | nil => exact hpart
    | @cons raw?' next raws parts hnext hrest =>
      obtain ⟨-, hgapsTail⟩ := List.forall_mem_cons.1 hgaps
      have hvisibleTail := hvisible.imp (fun h => (List.forall_mem_cons.1 h).2) fun h => (List.forall_mem_cons.1 h).2
      have htail := ih hgapsTail hvisibleTail
      have hgap := hgapsTail next List.mem_cons_self
      refine ⟨hpart.append (.gap_append hgap htail.toSelfContained), fun hend => ?_⟩
      rw [endRaw?, List.getLast?_cons_cons] at hend
      have hsealed : (Fragment.gapped (next :: parts)).Sealed := ⟨htail.toSelfContained, htail.stays hend⟩
      refine (Sealed.append hpart.toSelfContained (.gap_append hgap hsealed ?_)).stays
      refine hvisibleTail.imp (fun h => h next List.mem_cons_self) fun h => ?_
      exact trimEndChars_ne_nil (begins_gapped (List.cons_ne_nil _ _) h)

/-! ### fragments without raw text -/

lemma isBetween_run_read (ts : List Token) {s : LexState} (hs : Token.IsBetween s) :
    Token.IsBetween (s.run (source (Token.read ts))) := by
  induction ts generalizing s with
  | nil => exact hs
  | cons t ts ih =>
    rw [Token.read_cons, source_append, run_append]
    refine ih ?_
    -- what begins with a character that completes no opening is read alike between tokens and from code
    have hregion : ∀ {cs : List Char} {c : Char} {t : LexState}, cs.head? = some c → completesNothing c →
        Leads .code cs t → Token.IsBetween t → Token.IsBetween (s.run cs) := by
      intro cs c t hhead hc hleads ht
      obtain ⟨cs, rfl⟩ := List.head?_eq_some_iff.1 hhead
      rw [(hleads.of_isCode hs.isCode hc).run]
      exact ht
    cases t with
    | plain c h =>
      have hstep : s.step c = .code := (hs.step c).trans (afterCode_of_isCalm h)
      exact .inl hstep
    | quoted content =>
      rw [Token.symbols, source_chars]
      exact hregion (by rw [toList_quoteLiteral]; rfl) (by refine ⟨?_, ?_, ?_⟩ <;> decide) (leads_quoteLiteral content)
        (.inr (.inl rfl))
    | name content =>
      rw [Token.symbols, source_chars]
      exact hregion (by rw [Token.toList_quoteIdentifier]; rfl) (by refine ⟨?_, ?_, ?_⟩ <;> decide)
        (Token.leads_quoteIdentifier content) (.inr (.inr rfl))
    | value v =>
      have hstep : s.step '?' = .code := hs.step '?'
      exact .inl hstep

/-- **A fragment without raw text is self-contained**, and trimming does not change that. -/
lemma Inlines.sealed (h : Inlines f g) : f.Sealed where
  names := h.names_eq_nil
  count := h.positionalCount_eq
  closed := by
    obtain ⟨ts, hsource, -⟩ := h
    rw [hsource]
    exact (isBetween_run_read ts (.inl rfl)).isCode
  stays := by
    obtain ⟨ts, hsource, -⟩ := h
    rw [StaysClosed, hsource, ← (Token.read_rdropWhile ts).1]
    exact (isBetween_run_read _ (.inl rfl)).isCode

lemma Inlines.selfContained (h : Inlines f g) : f.SelfContained := h.sealed.toSelfContained

end Fragment

end WarehouseSql
