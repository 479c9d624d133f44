import WarehouseSql.Proofs.Statement.Resolution

/-!
A raw text in a statement.  If the raw text ends in code, what follows it reads as it would alone, and **values can be
inlined if they are as many as the markers behind the raw text and it has none of its own**
(`Template.interpolate_append_iff`).  If it ends within a region, **what follows is part of the region, markers and all**
(`Template.getLast?_of_interpolate`).
-/

namespace WarehouseSql

namespace Template

open LexState

lemma standsAt_of_none {s : LexState} {before next : Option Char} {x : Symbol} (h : StandsAt s before none x)
    (hnext : next.any continuesName = false) : StandsAt s before next x := by
  cases x with
  | char c =>
    have hstarts : next.any startsName = false := by
      cases next with
      | none => rfl
      | some d =>
        simp only [Option.any_some, startsName, continuesName, Char.isAlphanum, Bool.or_eq_false_iff] at hnext ⊢
        exact ⟨hnext.1.1, hnext.2⟩
    have h : opensMarker s before none c = false := h
    show opensMarker s before next c = false
    simpa [opensMarker, hstarts] using h
  | positional literal => exact h
  | named name literal => exact ⟨h.1, h.2.1, h.2.2.1, h.2.2.2.1, hnext⟩

/-- Two texts read one after the other, unless a name goes on from the first to the second. -/
lemma scans_append {s : LexState} {before : Option Char} {m n : List Symbol} (hm : Scans s before m)
    (hn : Scans (s.run (source m)) ((source m).getLast?.or before) n)
    (hnext : (source n).head?.any continuesName = false) : Scans s before (m ++ n) := by
  induction m generalizing s before with
  | nil => exact hn
  | cons x m ih =>
    have hlast : (source (x :: m)).getLast?.or before = (source m).getLast?.or x.source.getLast? := by
      rw [source_cons, List.getLast?_append, Option.or_assoc]
      cases x <;> simp [Symbol.source, List.getLast?_cons]
    refine ⟨?_, ih hm.2 ?_⟩
    · show StandsAt s before (source (m ++ n)).head? x
      have hx : StandsAt s before (source m).head? x := hm.1
      rw [source_append, List.head?_append]
      cases hhead : (source m).head? with
      | some c => rwa [hhead] at hx
      | none =>
        rw [hhead] at hx
        exact standsAt_of_none hx hnext
    · rw [hlast, source_cons, run_append, run_source hm.1] at hn
      exact hn

/-- The characters at which a region may end. -/
def closers : List Char := ['\'', '"', '\n', '/', '$']

/-- Within a region no marker starts before the region may end. -/
lemma unmarked_of_not_isCode {s : LexState} (hs : s.isCode = false) {cs : List Char} (h : ∀ c ∈ cs, c ∉ closers)
    (before next : Option Char) : Unmarked s before next cs := by
  induction cs generalizing s before with
  | nil => trivial
  | cons c cs ih =>
    obtain ⟨hc, hcs⟩ := List.forall_mem_cons.1 h
    refine ⟨opensMarker_of_not_isCode hs _ _ _, ih ?_ hcs _⟩
    simp only [closers, List.mem_cons, List.not_mem_nil, or_false, not_or] at hc
    cases s <;> simp_all [isCode, step] <;> split_ifs <;> rfl

/-- Symbols without named markers behind a raw text in code: values can be inlined if they are as many as the markers
and the raw text has none of its own. -/
lemma interpolate_append_iff {front text : String} {n : List Symbol} {values : List Value}
    (hn : Scans (LexState.run .code front.toList) front.toList.getLast? n)
    (hnext : (source n).head?.any continuesName = false) (hnames : markerNames n = [])
    (hliterals : literals n = values.map fun value => (value.literal none).toList) :
    interpolate (front ++ String.ofList (source n)) values = .ok text ↔
      (parse front).hasMarkers = false ∧ text.toList = front.toList ++ written n := by
  have hfront := source_symbolsOf front [] fun _ => none
  have hscans : Scans .code none (symbolsOf front [] (fun _ => none) ++ n) := by
    refine scans_append (scans_symbolsOf _ _ _) ?_ hnext
    rwa [hfront, Option.or_none]
  have hsource : source (symbolsOf front [] (fun _ => none) ++ n) = (front ++ String.ofList (source n)).toList := by
    rw [source_append, hfront, String.toList_append, String.toList_ofList]
  have hmarkers : (parse front).hasMarkers = false ↔
      markerNames (symbolsOf front [] fun _ => none) = [] ∧ (literals (symbolsOf front [] fun _ => none)).length = 0 := by
    rw [← names_eq (scans_symbolsOf _ _ _) hfront, ← positionalCount_eq (scans_symbolsOf _ _ _) hfront, hasMarkers]
    simp [and_comm]
  rw [interpolate_eq_ok_iff, names_eq hscans hsource, positionalCount_eq hscans hsource, markerNames_append, hnames,
    List.append_nil, literals_append, List.length_append, hliterals, List.length_map, hmarkers, and_assoc]
  refine and_congr_right fun hfrontNames => ?_
  rw [Nat.add_eq_right]
  refine and_congr_right fun hfrontLiterals => ?_
  -- without markers the front is only characters, and all values go behind it
  have hchars : symbolsOf front [] (fun _ => none) = chars front.toList := by
    have h := eq_chars (List.length_eq_zero_iff.1 hfrontLiterals) hfrontNames
    rwa [hfront] at h
  have hsymbols : symbolsOf (front ++ String.ofList (source n)) (values.map (·.literal none)) (fun _ => none) =
      symbolsOf front [] (fun _ => none) ++ n := by
    refine symbolsOf_eq hscans hsource ?_ ?_ _
    · rw [markerNames_append, hfrontNames, hnames, List.append_nil]
    · rw [literals_append, List.length_eq_zero_iff.1 hfrontLiterals, hliterals, List.nil_append, List.map_map]
      rfl
  rw [← String.toList_inj, render_eq_written, hsymbols, hchars, written_append, written_chars]

lemma getLast?_written_of_bare {m : List Symbol} {d : Char} (h : (m.map Symbol.bare).getLast? = some (.char d)) :
    (written m).getLast? = some d := by
  rw [List.getLast?_map] at h
  obtain ⟨x, hx, hbare⟩ := Option.map_eq_some_iff.1 h
  obtain ⟨before, rfl⟩ := List.getLast?_eq_some_iff.1 hx
  obtain rfl : x = .char d := by
    cases x with
    | char c => exact hbare
    | positional literal => cases hbare
    | named name literal => cases hbare
  simp [Symbol.written]

/-- Behind a raw text that ends within a region the rest is part of the region, markers and all. -/
lemma getLast?_of_interpolate {front tail text : String} {values : List Value}
    (hfront : (LexState.run .code front.toList).isCode = false) (htail : ∀ c ∈ tail.toList, c ∉ closers) {d : Char}
    (hlast : tail.toList.getLast? = some d) (hhead : tail.toList.head?.any continuesName = false)
    (h : interpolate (front ++ tail) values = .ok text) : text.toList.getLast? = some d := by
  obtain ⟨htext, -⟩ := written_of_interpolate h
  have hscans : Scans .code none (symbolsOf front [] (fun _ => none) ++ chars tail.toList) := by
    refine scans_append (scans_symbolsOf _ _ _) ?_ (by rwa [source_chars])
    rw [source_symbolsOf, scans_chars]
    exact unmarked_of_not_isCode hfront htail _ _
  have hsource : source (symbolsOf front [] (fun _ => none) ++ chars tail.toList) = (front ++ tail).toList := by
    rw [source_append, source_symbolsOf, source_chars, String.toList_append]
  rw [htext]
  refine getLast?_written_of_bare ?_
  rw [bare_symbolsOf hscans hsource, List.map_append, List.getLast?_append]
  simp [chars, hlast, Symbol.bare]

lemma hasMarkers_of_leads {sql : String} {t : LexState} (h : Leads .code sql.toList t) : (parse sql).hasMarkers = false :=
  hasMarkers_eq_false_iff.2 (h.unmarked _ _)

lemma leads_of_isCode {s : LexState} (hs : s.isCode = true) {c : Char} {cs : List Char} (hhead : cs.head? = some c)
    (hc : completesNothing c) (h : cs.all isCalm = true) : Leads s cs .code := by
  obtain ⟨rest, rfl⟩ := List.head?_eq_some_iff.1 hhead
  exact .of_isCode hs hc (leads_of_isCalm h)

/-- A text without marks leads wherever the automaton goes. -/
lemma leads_of_all_ne (s : LexState) {cs : List Char} (h : (cs.all fun c => c != '?' && c != ':') = true) :
    Leads s cs (s.run cs) := by
  induction cs generalizing s with
  | nil => exact .nil s
  | cons c cs ih =>
    simp only [List.all_cons, Bool.and_eq_true, bne_iff_ne] at h
    exact .cons (fun _ _ => opensMarker_of_ne h.1.1 h.1.2) (ih _ (by simpa using h.2))

lemma interpolate_two_iff {front first second last text : String} {v w : Value} {t : LexState}
    (hfirst : Leads (LexState.run .code front.toList) first.toList .code) (hsecond : Leads .code second.toList .code)
    (hlast : Leads .code last.toList t) (hhead : first.toList.head?.any continuesName = false) :
    interpolate (front ++ (first ++ "?" ++ second ++ "?" ++ last)) [v, w] = .ok text ↔
      (parse front).hasMarkers = false ∧
        text = front ++ first ++ v.literal none ++ second ++ w.literal none ++ last := by
  let n : List Symbol := chars first.toList ++ .positional (v.literal none).toList ::
    (chars second.toList ++ .positional (w.literal none).toList :: chars last.toList)
  have hsource : first ++ "?" ++ second ++ "?" ++ last = String.ofList (source n) :=
    String.toList_inj.1 (by simp [n, Symbol.source])
  have hwritten : written n = (first ++ v.literal none ++ second ++ w.literal none ++ last).toList := by
    simp [n, Symbol.written]
  have hscans : Scans (LexState.run .code front.toList) front.toList.getLast? n := by
    refine scans_chars_append.2 ⟨hfirst.unmarked _ _, ?_⟩
    rw [hfirst.run]
    refine ⟨rfl, scans_chars_append.2 ⟨hsecond.unmarked _ _, ?_⟩⟩
    show Scans (LexState.run .code second.toList) _ _
    rw [hsecond.run]
    exact ⟨rfl, scans_chars.2 (hlast.unmarked _ _)⟩
  have hnext : (source n).head?.any continuesName = false := by
    simp only [n, source_append, source_chars, List.head?_append]
    cases hcase : first.toList.head? with
    | none => rfl
    | some c =>
      rw [hcase] at hhead
      exact hhead
  rw [hsource, interpolate_append_iff hscans hnext (by simp [n]) (by simp [n]), hwritten, ← String.toList_append,
    String.toList_inj]
  simp only [String.append_assoc]

/-! ### a raw name with two markers behind it -/

/-- Texts that a raw name is put between: `select` leaves code as it is, a point follows the name, and a marker stands
after each of the other two. -/
structure Surrounds (select first second : String) : Prop where
  unmarked : (select.toList.all fun c => c != '?' && c != ':') = true
  run : LexState.run .code select.toList = .code
  allows : allowsMarker select.toList.getLast? = true
  point : first.toList.head? = some '.'
  first_calm : first.toList.all isCalm = true
  second_calm : second.toList.all isCalm = true
  open_region : ((first ++ "?" ++ second ++ "?" ++ "").toList.all fun c => !closers.contains c) = true

lemma unmarked_congr {s : LexState} {before before' next : Option Char} (h : allowsMarker before = allowsMarker before')
    (cs : List Char) : Unmarked s before next cs ↔ Unmarked s before' next cs := by
  cases cs with
  | nil => exact Iff.rfl
  | cons c cs => rw [Unmarked, Unmarked, opensMarker, opensMarker, h]

namespace Surrounds

variable {select first second raw text : String} {v w : Value}

lemma run_append (h : Surrounds select first second) (raw : String) :
    LexState.run .code (select ++ raw).toList = LexState.run .code raw.toList := by
  rw [String.toList_append, LexState.run_append, h.run]

lemma hasMarkers_append (h : Surrounds select first second) (raw : String) :
    (parse (select ++ raw)).hasMarkers = false ↔ (parse raw).hasMarkers = false := by
  have hbefore : allowsMarker (select.toList.getLast?.or none) = allowsMarker none := by
    rw [Option.or_none, h.allows]
    rfl
  rw [hasMarkers_eq_false_iff, hasMarkers_eq_false_iff, String.toList_append, unmarked_append, h.run,
    unmarked_congr hbefore]
  exact and_iff_right ((leads_of_all_ne _ h.unmarked).unmarked _ _)

lemma leads_first (h : Surrounds select first second) (hraw : (LexState.run .code raw.toList).isCode = true) :
    Leads (LexState.run .code (select ++ raw).toList) first.toList .code := by
  refine leads_of_isCode ?_ h.point (by refine ⟨?_, ?_, ?_⟩ <;> decide) h.first_calm
  rwa [h.run_append]

/-- A raw name that leaves code as it is has the values behind it. -/
theorem interpolate_iff (h : Surrounds select first second)
    (hraw : (LexState.run .code raw.toList).isCode = true) :
    interpolate (select ++ raw ++ (first ++ "?" ++ second ++ "?" ++ "")) [v, w] = .ok text ↔
      (parse raw).hasMarkers = false ∧ text = select ++ raw ++ first ++ v.literal none ++ second ++ w.literal none := by
  rw [interpolate_two_iff (h.leads_first hraw) (leads_of_isCalm h.second_calm) (.nil _) (by rw [h.point]; rfl),
    h.hasMarkers_append, String.append_empty]

/-- A raw name that opens a region takes the markers behind it into the region. -/
theorem getLast?_eq (h : Surrounds select first second) (hraw : (LexState.run .code raw.toList).isCode = false)
    (hinlined : interpolate (select ++ raw ++ (first ++ "?" ++ second ++ "?" ++ "")) [v, w] = .ok text) :
    text.toList.getLast? = some '?' := by
  obtain ⟨rest, hpoint⟩ := List.head?_eq_some_iff.1 h.point
  have hlast : (first ++ "?" ++ second ++ "?" ++ "").toList = (first ++ "?" ++ second).toList ++ ['?'] := by simp
  have hregion : ∀ c ∈ (first ++ "?" ++ second ++ "?" ++ "").toList, c ∉ closers := fun c hc => by
    simpa using List.all_eq_true.1 h.open_region c hc
  refine getLast?_of_interpolate (by rwa [h.run_append]) hregion (by rw [hlast, List.getLast?_concat]) ?_ hinlined
  simp only [String.toList_append, hpoint]
  rfl

end Surrounds

end Template

end WarehouseSql
