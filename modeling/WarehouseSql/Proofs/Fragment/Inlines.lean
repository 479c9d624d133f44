import Mathlib.Data.List.Forall2
import WarehouseSql.Fragment
import WarehouseSql.Proofs.Fragment.Tokens
import WarehouseSql.Template.Inline

/-!
Fragments with placeholders beside fragments with literals.  `Fragment.Inlines f g` says that one list of tokens gives
`f` with its placeholders and `g` with the literals of their values; **interpolation then leads from the one to the
other** (`Inlines.interpolate_eq`).  The relation is kept by all that compiling does with fragments: putting them end to
end, joining them and making sentences of them.
-/

namespace WarehouseSql

open Template

namespace Fragment

/-- Tokens that are the first fragment with placeholders and the second one with literals. -/
structure Inlining (f g : Fragment) (ts : List Token) : Prop where
  source : f.sql.toList = source (Token.read ts)
  written : g.sql.toList = written (Token.read ts)
  values : f.bindings = Token.values ts
  none : g.bindings = []

/-- The second fragment is the first one with the literals of its bindings in place of its placeholders. -/
def Inlines (f g : Fragment) : Prop := ∃ ts, Inlining f g ts

/-- A text without placeholders that reads alike wherever it stands. -/
def Spelled (s : String) : Prop := Inlines (text s) (text s)

variable {f g : Fragment}

namespace Inlines

lemma names_eq_nil (h : Inlines f g) : (parse f.sql).names = [] := by
  obtain ⟨ts, hsource, -, -, -⟩ := h
  exact (names_eq (Token.scans_read ts .code (.inl rfl) none) hsource.symm).trans (Token.markerNames_read ts)

lemma positionalCount_eq (h : Inlines f g) : (parse f.sql).positionalCount = f.bindings.length := by
  obtain ⟨ts, hsource, -, hvalues, -⟩ := h
  have hscans := Token.scans_read ts .code (.inl rfl) Option.none
  rw [Template.positionalCount_eq hscans hsource.symm, Token.literals_read, List.length_map, List.length_map, hvalues]

lemma bindings_eq_nil (h : Inlines f g) : g.bindings = [] := by
  obtain ⟨_, -, -, -, hnone⟩ := h
  exact hnone

/-- **Interpolation puts the literals in.** -/
theorem interpolate_eq (h : Inlines f g) : interpolate f.sql f.bindings = .ok g.sql := by
  have hnames := h.names_eq_nil
  have hcount := h.positionalCount_eq
  obtain ⟨ts, hsource, hwritten, hvalues, -⟩ := h
  have hsymbols : symbolsOf f.sql (f.bindings.map (·.literal none)) (fun _ => none) = Token.read ts := by
    refine symbolsOf_eq (Token.scans_read ts .code (.inl rfl) none) hsource.symm (Token.markerNames_read ts) ?_ _
    rw [Token.literals_read, hvalues]
  have hrender : (parse f.sql).render (f.bindings.map (·.literal none)) (fun _ => none) = g.sql := by
    rw [← String.toList_inj, render_eq_written, hsymbols, hwritten]
  simp [interpolate, hnames, hcount, hrender]

/-! ### putting fragments together -/

lemma empty : Inlines .empty .empty := ⟨[], rfl, rfl, rfl, rfl⟩

lemma append {f' g' : Fragment} (h : Inlines f g) (h' : Inlines f' g') : Inlines (f ++ f') (g ++ g') := by
  obtain ⟨ts, hsource, hwritten, hvalues, hnone⟩ := h
  obtain ⟨us, hsource', hwritten', hvalues', hnone'⟩ := h'
  refine ⟨ts ++ us, ?_, ?_, ?_, ?_⟩
  · rw [sql_append, String.toList_append, hsource, hsource', Token.read_append, source_append]
  · rw [sql_append, String.toList_append, hwritten, hwritten', Token.read_append, written_append]
  · rw [bindings_append, hvalues, hvalues', Token.values_append]
  · rw [bindings_append, hnone, hnone', List.append_nil]

end Inlines

/-! ### texts without placeholders -/

lemma Spelled.inlines {s : String} (h : Spelled s) : Inlines (text s) (text s) := h

lemma Spelled.append {s t : String} (hs : Spelled s) (ht : Spelled t) : Spelled (s ++ t) := Inlines.append hs ht

lemma spelled_of_token {s : String} {t : Token} (hsource : s.toList = source t.symbols)
    (hwritten : s.toList = written t.symbols) (hvalue : t.value? = none) : Spelled s :=
  ⟨[t], by simpa using hsource, by simpa using hwritten, by simp [hvalue], rfl⟩

lemma spelled_of_isCalm {s : String} (h : s.toList.all LexState.isCalm = true) : Spelled s := by
  have hchars : ∀ cs : List Char, cs.all LexState.isCalm = true → Spelled (String.ofList cs) := by
    intro cs hcs
    induction cs with
    | nil => exact .empty
    | cons c cs ih =>
      rw [List.all_cons, Bool.and_eq_true] at hcs
      have hchar : Spelled (String.ofList [c]) :=
        spelled_of_token (t := .plain c hcs.1) (by simp [Token.symbols, Symbol.source])
          (by simp [Token.symbols, Symbol.written]) rfl
      rw [← List.singleton_append, String.ofList_append]
      exact hchar.append (ih hcs.2)
  simpa using hchars _ h

lemma Spelled.append_calm {s t : String} (hs : Spelled s) (ht : t.toList.all LexState.isCalm = true) :
    Spelled (s ++ t) :=
  hs.append (spelled_of_isCalm ht)

lemma Spelled.calm_append {s t : String} (hs : s.toList.all LexState.isCalm = true) (ht : Spelled t) :
    Spelled (s ++ t) :=
  (spelled_of_isCalm hs).append ht

lemma spelled_quoteLiteral (content : String) : Spelled (Text.quoteLiteral content) :=
  spelled_of_token (t := .quoted content) (source_chars _).symm (written_chars _).symm rfl

lemma spelled_quoteIdentifier (content : String) : Spelled (Text.quoteIdentifier content) :=
  spelled_of_token (t := .name content) (source_chars _).symm (written_chars _).symm rfl

/-- What is kept when texts are put together holds of pieces with a separator between them. -/
lemma intercalate_induction {P : String → Prop} (hempty : P "") (happend : ∀ {a b : String}, P a → P b → P (a ++ b))
    {separator : String} (hseparator : P separator) {pieces : List String} (h : ∀ piece ∈ pieces, P piece) :
    P (String.intercalate separator pieces) := by
  induction pieces with
  | nil => exact hempty
  | cons piece pieces ih =>
    obtain ⟨hpiece, hpieces⟩ := List.forall_mem_cons.1 h
    cases pieces with
    | nil => simpa using hpiece
    | cons next pieces =>
      rw [String.intercalate_cons_cons]
      exact happend (happend hpiece hseparator) (ih hpieces)

/-! ### joins and sentences -/

lemma join_cons (separator : String) (f f' : Fragment) (fs : List Fragment) :
    join separator (f :: f' :: fs) = f ++ text separator ++ join separator (f' :: fs) := by
  show (⟨_, _⟩ : Fragment) = ⟨_, _⟩
  simp [join, String.intercalate_cons_cons, String.append_assoc]

lemma Inlines.join {separator : String} (hs : Spelled separator) {fs gs : List Fragment}
    (h : List.Forall₂ Inlines fs gs) : Inlines (join separator fs) (Fragment.join separator gs) := by
  induction h with
  | nil => exact .empty
  | cons h hrest ih =>
    cases hrest with
    | nil => simpa [Fragment.join] using h
    | cons h' hrest =>
      rw [join_cons, join_cons]
      exact (h.append hs).append ih

lemma forall₂_inlines_map {ι κ : Type} {items : List ι} {k : ι → κ} {f : ι → Fragment} {g : κ → Fragment}
    (h : ∀ i ∈ items, Inlines (f i) (g (k i))) :
    List.Forall₂ Inlines (items.map f) ((items.map k).map g) := by
  rw [List.map_map, List.forall₂_map_left_iff, List.forall₂_map_right_iff, List.forall₂_same]
  exact h

def trimmed (f : Fragment) : Fragment := ⟨Text.trim f.sql, f.bindings⟩

lemma Inlines.trimmed (h : Inlines f g) : Inlines f.trimmed g.trimmed := by
  obtain ⟨ts, hsource, hwritten, hvalues, hnone⟩ := h
  obtain ⟨htrimmed, htrimmed', hkept⟩ := Token.read_trim ts
  refine ⟨Token.trim ts, ?_, ?_, hvalues.trans hkept.symm, hnone⟩
  · rw [Fragment.trimmed, Text.trim, String.toList_ofList, hsource, htrimmed]
  · rw [Fragment.trimmed, Text.trim, String.toList_ofList, hwritten, htrimmed']

/-- No tokens have no text, be it with placeholders or with literals. -/
lemma Inlines.sql_eq_empty (h : Inlines f g) :
    (f.sql = "" ↔ g.sql = "") ∧ (f.sql = "" → f.bindings = []) := by
  obtain ⟨ts, hsource, hwritten, hvalues, -⟩ := h
  rw [← String.toList_eq_nil_iff, ← String.toList_eq_nil_iff, hsource, hwritten, hvalues]
  cases ts with
  | nil => simp
  | cons t ts =>
    obtain ⟨hsource, hwritten⟩ := Token.read_cons_ne_nil t ts
    exact ⟨iff_of_false hsource hwritten, fun h => absurd h hsource⟩

/-- A sentence leaves out parts without text, which have no bindings either. -/
lemma sentence_eq {fs : List Fragment} (h : ∀ f ∈ fs, f.trimmed.sql = "" → f.bindings = []) :
    sentence fs = Fragment.join " " ((fs.map trimmed).filter (·.sql != "")) := by
  have hsql : (fs.map fun part => Text.trim part.sql).filter (· != "") =
      ((fs.map trimmed).filter (·.sql != "")).map sql := by
    rw [List.filter_map, List.filter_map, List.map_map]
    rfl
  have hbindings : fs.flatMap bindings = ((fs.map trimmed).filter (·.sql != "")).flatMap bindings := by
    clear hsql
    induction fs with
    | nil => rfl
    | cons f fs ih =>
      have htail := ih fun f' hf' => h f' (List.mem_cons_of_mem _ hf')
      by_cases hempty : f.trimmed.sql = ""
      · simp [hempty, htail, h f List.mem_cons_self hempty]
      · simp [hempty, htail]
        rfl
  rw [sentence, Fragment.join, hsql, hbindings]

lemma Inlines.sentence {fs gs : List Fragment} (h : List.Forall₂ Inlines fs gs) :
    Inlines (Fragment.sentence fs) (Fragment.sentence gs) := by
  have hleft : ∀ f ∈ fs, f.trimmed.sql = "" → f.bindings = [] := by
    induction h with
    | nil => simp
    | cons h _ ih => exact List.forall_mem_cons.2 ⟨h.trimmed.sql_eq_empty.2, ih⟩
  have hright : ∀ g ∈ gs, g.trimmed.sql = "" → g.bindings = [] := by
    clear hleft
    induction h with
    | nil => simp
    | cons h _ ih => exact List.forall_mem_cons.2 ⟨fun _ => h.bindings_eq_nil, ih⟩
  have htrimmed : List.Forall₂ Inlines (fs.map Fragment.trimmed) (gs.map Fragment.trimmed) := by
    rw [List.forall₂_map_left_iff, List.forall₂_map_right_iff]
    exact h.imp fun _ _ h => h.trimmed
  rw [sentence_eq hleft, sentence_eq hright]
  refine .join (spelled_of_isCalm (by decide)) (List.rel_filter ?_ htrimmed)
  intro f g h
  simpa using not_congr h.sql_eq_empty.1

end Fragment

end WarehouseSql
