import WarehouseSql.Proofs.Template.Inlining

/-!
The segments of a template and the positions of its text.  A marker of a list of symbols stands where the automaton
opens one (`standsAt_of_scans`), and where the automaton opens one there is a marker (`exists_marker_of_opensMarker`),
for a name holds no character that opens another.  The symbols of a template are those of its segments, so
**the segments of a statement are its text, cut at exactly the positions at which a marker is read** (`parse_reads`).
-/

namespace WarehouseSql

/-! ### segments in symbols -/

namespace Segment

/-- A segment as the text has it. -/
def source : Segment → List Char
  | .text cs => cs
  | .positional => ['?']
  | .named name => ':' :: name.toList

/-- The symbols of a segment, without literals. -/
def symbols : Segment → List Symbol
  | .text cs => Template.chars cs
  | .positional => [.positional []]
  | .named name => [.named name []]

@[simp] lemma source_symbols (segment : Segment) : Template.source segment.symbols = segment.source := by
  cases segment <;> simp [symbols, source, Symbol.source]

lemma symbols_eq_of_mem {segment : Segment} {x : Symbol} (h : x ∈ segment.symbols) (hx : x.isMarker = true) :
    segment.symbols = [x] := by
  cases segment with
  | text cs =>
    obtain ⟨c, -, rfl⟩ := List.mem_map.1 h
    cases hx
  | positional => rw [symbols, List.mem_singleton.1 h]
  | named name => rw [symbols, List.mem_singleton.1 h]

lemma eq_marker_of_symbols_eq {segment : Segment} {x : Symbol} (h : segment.symbols = [x]) (hx : x.isMarker = true) :
    segment = .positional ∧ x = .positional [] ∨ ∃ name, segment = .named name ∧ x = .named name [] := by
  cases segment with
  | text cs =>
    have hmem : x ∈ (text cs).symbols := h ▸ List.mem_singleton_self x
    obtain ⟨c, -, rfl⟩ := List.mem_map.1 hmem
    cases hx
  | positional => exact .inl ⟨rfl, (List.head_eq_of_cons_eq h).symm⟩
  | named name => exact .inr ⟨name, rfl, (List.head_eq_of_cons_eq h).symm⟩

end Segment

namespace Template

open LexState

lemma symbols_eq_flatMap (segments : List Segment) :
    symbols (fun _ => none) [] segments = segments.flatMap Segment.symbols := by
  induction segments with
  | nil => rfl
  | cons segment segments ih => cases segment <;> simp [symbols, Segment.symbols, ih]

lemma source_flatMap_symbols (segments : List Segment) :
    source (segments.flatMap Segment.symbols) = segments.flatMap Segment.source := by
  induction segments with
  | nil => rfl
  | cons segment segments ih => simp [ih]

lemma exists_segment_of_isMarker {segments : List Segment} {m n : List Symbol} {x : Symbol} (hx : x.isMarker = true)
    (h : segments.flatMap Segment.symbols = m ++ x :: n) :
    ∃ before segment after, segments = before ++ segment :: after ∧ segment.symbols = [x] ∧
      before.flatMap Segment.symbols = m := by
  induction segments generalizing m with
  | nil => simp at h
  | cons segment segments ih =>
    -- the marker may stand in a later segment
    have later : ∀ {m'}, m = segment.symbols ++ m' → segments.flatMap Segment.symbols = m' ++ x :: n →
        ∃ before segment' after, segment :: segments = before ++ segment' :: after ∧ segment'.symbols = [x] ∧
          before.flatMap Segment.symbols = m := by
      rintro m' rfl htail
      obtain ⟨before, segment', after, rfl, hsymbols, rfl⟩ := ih htail
      exact ⟨segment :: before, segment', after, rfl, hsymbols, rfl⟩
    rw [List.flatMap_cons] at h
    rcases List.append_eq_append_iff.1 h with ⟨m', hm, htail⟩ | ⟨own, hown, htail⟩
    · exact later hm htail
    · cases own with
      | nil => exact @later [] (by simpa using hown.symm) htail.symm
      | cons y own =>
        -- it stands in this one, which is nothing else
        obtain ⟨rfl, -⟩ := List.cons.inj htail
        have hsymbols : segment.symbols = [x] :=
          Segment.symbols_eq_of_mem (hown ▸ List.mem_append_right m List.mem_cons_self) hx
        obtain rfl : m = [] := by
          have hlength := congrArg List.length (hsymbols.symm.trans hown)
          simp only [List.length_append, List.length_cons, List.length_nil] at hlength
          exact List.length_eq_zero_iff.1 (by omega)
        exact ⟨[], segment, segments, rfl, hsymbols, rfl⟩

/-! ### markers where they are opened -/

/-- Every character of a text belongs to a symbol. -/
lemma exists_symbol_of_source {m : List Symbol} {as bs : List Char} {c : Char} (h : source m = as ++ c :: bs) :
    ∃ m' x n inner rest, m = m' ++ x :: n ∧ as = source m' ++ inner ∧ x.source = inner ++ c :: rest ∧
      bs = rest ++ source n := by
  induction m generalizing as with
  | nil => simp at h
  | cons x m ih =>
    have later : ∀ {as'}, as = x.source ++ as' → source m = as' ++ c :: bs →
        ∃ m' y n inner rest, x :: m = m' ++ y :: n ∧ as = source m' ++ inner ∧ y.source = inner ++ c :: rest ∧
          bs = rest ++ source n := by
      rintro as' rfl htail
      obtain ⟨m', y, n, inner, rest, rfl, rfl, hy, hbs⟩ := ih htail
      exact ⟨x :: m', y, n, inner, rest, rfl, by simp, hy, hbs⟩
    rw [source_cons] at h
    rcases List.append_eq_append_iff.1 h with ⟨as', has, htail⟩ | ⟨own, hown, htail⟩
    · exact later has htail
    · cases own with
      | nil => exact @later [] (by simpa using hown.symm) htail.symm
      | cons d rest =>
        obtain ⟨rfl, rfl⟩ := List.cons.inj htail
        exact ⟨[], x, m, as, rest, rfl, rfl, hown, rfl⟩

lemma not_opensMarker_of_continuesName {c : Char} (h : continuesName c = true) (s : LexState)
    (before next : Option Char) : opensMarker s before next c = false := by
  refine opensMarker_of_ne ?_ ?_
  · rintro rfl
    exact absurd h (by decide)
  · rintro rfl
    exact absurd h (by decide)

/-- **Where a marker is opened, there is one.** -/
lemma exists_marker_of_opensMarker {m : List Symbol} (h : Scans .code none m) {as bs : List Char} {c : Char}
    (hm : source m = as ++ c :: bs) (hopens : opensMarker (LexState.run .code as) as.getLast? bs.head? c = true) :
    ∃ m' x n, m = m' ++ x :: n ∧ source m' = as ∧ x.isMarker = true := by
  obtain ⟨m', x, n, inner, rest, rfl, rfl, hx, rfl⟩ := exists_symbol_of_source hm
  have hstands := standsAt_of_scans h
  cases x with
  | char d =>
    -- a character of the text opens no marker
    obtain ⟨rfl, hsame⟩ := List.append_eq_singleton_iff.1 hx.symm |>.resolve_right (by simp)
    obtain ⟨rfl, rfl⟩ := List.cons.inj hsame
    rw [List.append_nil, List.nil_append] at hopens
    rw [StandsAt, Option.or_none, hopens] at hstands
    cases hstands
  | positional literal =>
    obtain ⟨rfl, -⟩ := List.append_eq_singleton_iff.1 hx.symm |>.resolve_right (by simp)
    exact ⟨m', _, n, rfl, (List.append_nil _).symm, rfl⟩
  | named name literal =>
    cases inner with
    | nil => exact ⟨m', _, n, rfl, (List.append_nil _).symm, rfl⟩
    | cons colon inner =>
      -- within a name nothing is opened
      have hname : name.toList = inner ++ c :: rest := (List.cons.inj hx).2
      have hc : continuesName c = true := hstands.2.2.2.1 c (hname ▸ List.mem_append_right inner List.mem_cons_self)
      rw [not_opensMarker_of_continuesName hc] at hopens
      cases hopens

/-! ### positions -/

lemma region_eq_code_iff {s : LexState} {c : Char} (hsingle : c ≠ '\'') (hdouble : c ≠ '"') :
    s.region (some c) = .code ↔ s.isCode = true := by
  cases s <;> simp [region, isCode, hsingle, hdouble]

lemma exists_split_of_getElem? {cs : List Char} {position : Nat} {c : Char} (h : cs[position]? = some c) :
    ∃ as bs, cs = as ++ c :: bs ∧ as.length = position := by
  obtain ⟨hlt, rfl⟩ := List.getElem?_eq_some_iff.1 h
  refine ⟨cs.take position, cs.drop (position + 1), ?_, List.length_take_of_le hlt.le⟩
  rw [← List.drop_eq_getElem_cons hlt, List.take_append_drop]

/-- A segment stands at a position of the text. -/
def HasAt (t : Template) (segment : Segment) (position : Nat) : Prop :=
  ∃ before after, t.segments = before ++ segment :: after ∧ (before.flatMap Segment.source).length = position

/-- A named marker starts at a position of a text: at a colon in code, at the start or behind white space, a bracket, a
comma or an operator, before a letter or an underscore. -/
structure StartsNamed (sql : List Char) (position : Nat) : Prop where
  colon : sql[position]? = some ':'
  code : regionAt sql position = .code
  lead : position = 0 ∨ ∃ c ∈ [' ', '\t', '\n', '\r', '(', ',', '=', '<', '>', '+', '-', '*', '/'],
    sql[position - 1]? = some c
  letter : ∃ c, sql[position + 1]? = some c ∧ (c.isAlpha = true ∨ c = '_')

def longestName (cs : List Char) : String := String.ofList (cs.takeWhile fun c => c.isAlphanum || c == '_')

/-- A template is a text cut at its markers, each marker where the automaton reads one. -/
structure ReadsAs (sql : List Char) (t : Template) : Prop where
  text : t.segments.flatMap Segment.source = sql
  positional : ∀ position,
    t.HasAt .positional position ↔ sql[position]? = some '?' ∧ regionAt sql position = .code
  named : ∀ position name,
    t.HasAt (.named name) position ↔ StartsNamed sql position ∧ name = longestName (sql.drop (position + 1))

lemma lead_iff (as bs : List Char) :
    allowsMarker as.getLast? = true ↔ as.length = 0 ∨
      ∃ c ∈ [' ', '\t', '\n', '\r', '(', ',', '=', '<', '>', '+', '-', '*', '/'],
        (as ++ bs)[as.length - 1]? = some c := by
  rcases List.eq_nil_or_concat as with rfl | ⟨as, c, rfl⟩
  · simp [allowsMarker]
  · simp [allowsMarker]

/-- At a split of the text, a named marker starts where the automaton opens one at a colon. -/
lemma startsNamed_iff (as bs : List Char) (c : Char) :
    StartsNamed (as ++ c :: bs) as.length ↔
      c = ':' ∧ opensMarker (LexState.run .code as) as.getLast? bs.head? c = true := by
  have hcolon : (as ++ c :: bs)[as.length]? = some c := by simp
  have hletter : (as ++ c :: bs)[as.length + 1]? = bs.head? := by
    rw [List.getElem?_append_right (Nat.le_add_right _ _), Nat.add_sub_cancel_left, List.getElem?_cons_succ,
      List.head?_eq_getElem?]
  have hstarts : bs.head?.any startsName = true ↔ ∃ d, bs.head? = some d ∧ (d.isAlpha = true ∨ d = '_') := by
    simp [Option.any_eq_true, startsName]
  constructor
  · rintro ⟨hc, hcode, hlead, hnext⟩
    obtain rfl : c = ':' := Option.some.inj (hcolon.symm.trans hc)
    rw [regionAt_append, List.head?_cons, region_eq_code_iff (by decide) (by decide)] at hcode
    rw [hletter, ← hstarts] at hnext
    rw [← lead_iff] at hlead
    simp [opensMarker, hcode, hlead, hnext]
  · rintro ⟨rfl, hopens⟩
    simp only [opensMarker, Bool.and_eq_true, Bool.or_eq_true, beq_iff_eq] at hopens
    obtain ⟨hcode, hmark | ⟨⟨-, hlead⟩, hnext⟩⟩ := hopens
    · exact absurd hmark (by decide)
    · refine ⟨hcolon, ?_, (lead_iff _ _).1 hlead, ?_⟩
      · rwa [regionAt_append, List.head?_cons, region_eq_code_iff (by decide) (by decide)]
      · rwa [hletter, ← hstarts]

lemma scans_segments (sql : String) :
    Scans .code none ((parse sql).segments.flatMap Segment.symbols) ∧
      source ((parse sql).segments.flatMap Segment.symbols) = sql.toList := by
  rw [← symbols_eq_flatMap]
  exact ⟨scans_symbolsOf sql [] _, source_symbolsOf sql [] _⟩

lemma split_of_hasAt {sql : String} {segment : Segment} {x : Symbol} (hx : segment.symbols = [x]) {position : Nat}
    (h : (parse sql).HasAt segment position) :
    ∃ as bs, sql.toList = as ++ (x.source ++ bs) ∧ as.length = position ∧
      StandsAt (LexState.run .code as) as.getLast? bs.head? x := by
  obtain ⟨before, after, hsegments, rfl⟩ := h
  obtain ⟨hscans, hsource⟩ := scans_segments sql
  have hsymbols : (parse sql).segments.flatMap Segment.symbols =
      before.flatMap Segment.symbols ++ x :: after.flatMap Segment.symbols := by
    rw [hsegments, List.flatMap_append, List.flatMap_cons, hx, List.singleton_append]
  rw [hsymbols] at hscans hsource
  refine ⟨before.flatMap Segment.source, after.flatMap Segment.source, ?_, rfl, ?_⟩
  · rw [← hsource, source_append, source_cons, source_flatMap_symbols, source_flatMap_symbols]
  · rw [← source_flatMap_symbols before, ← source_flatMap_symbols after]
    simpa using standsAt_of_scans hscans

/-- Where the automaton opens a marker, there is a segment for it. -/
lemma exists_hasAt_of_opensMarker {sql : String} {as bs : List Char} {c : Char} (hsql : sql.toList = as ++ c :: bs)
    (hopens : opensMarker (LexState.run .code as) as.getLast? bs.head? c = true) :
    ∃ segment x rest, segment.symbols = [x] ∧ x.isMarker = true ∧ (parse sql).HasAt segment as.length ∧
      c :: bs = x.source ++ rest ∧ StandsAt (LexState.run .code as) as.getLast? rest.head? x := by
  obtain ⟨hscans, hsource⟩ := scans_segments sql
  obtain ⟨m, x, n, hm, rfl, hx⟩ := exists_marker_of_opensMarker hscans (hsource.trans hsql) hopens
  obtain ⟨before, segment, after, hsegments, hsymbols, rfl⟩ := exists_segment_of_isMarker hx hm
  have hat : (parse sql).HasAt segment (source (before.flatMap Segment.symbols)).length :=
    ⟨before, after, hsegments, by rw [source_flatMap_symbols]⟩
  obtain ⟨as', rest, hsql', hlength, hstands⟩ := split_of_hasAt hsymbols hat
  obtain ⟨rfl, hrest⟩ := List.append_inj (hsql.symm.trans hsql') hlength.symm
  exact ⟨segment, x, rest, hsymbols, hx, hat, hrest, hstands⟩

lemma hasAt_positional_iff (sql : String) (position : Nat) :
    (parse sql).HasAt .positional position ↔
      sql.toList[position]? = some '?' ∧ regionAt sql.toList position = .code := by
  constructor
  · intro h
    obtain ⟨as, bs, hsql, rfl, hstands⟩ := split_of_hasAt rfl h
    rw [hsql, Symbol.source, List.singleton_append, regionAt_append, List.head?_cons,
      region_eq_code_iff (by decide) (by decide)]
    exact ⟨by simp, hstands⟩
  · rintro ⟨hchar, hcode⟩
    obtain ⟨as, bs, hsql, rfl⟩ := exists_split_of_getElem? hchar
    rw [hsql, regionAt_append, List.head?_cons, region_eq_code_iff (by decide) (by decide)] at hcode
    have hopens : opensMarker (LexState.run .code as) as.getLast? bs.head? '?' = true := by
      simp [opensMarker, hcode]
    obtain ⟨segment, x, rest, hsymbols, hx, hat, hrest, -⟩ := exists_hasAt_of_opensMarker hsql hopens
    rcases Segment.eq_marker_of_symbols_eq hsymbols hx with ⟨rfl, rfl⟩ | ⟨name, rfl, rfl⟩
    · exact hat
    · exact absurd (List.cons.inj hrest).1 (by decide)

lemma longestName_append {name bs : List Char} (hname : ∀ c ∈ name, continuesName c = true)
    (hbs : bs.head?.any continuesName = false) : longestName (name ++ bs) = String.ofList name := by
  have hcut : bs.takeWhile continuesName = [] := by
    cases bs with
    | nil => rfl
    | cons b bs => simpa using hbs
  have hwhole : (name ++ bs).takeWhile continuesName = name := by
    rw [List.takeWhile_append_of_pos hname, hcut, List.append_nil]
  exact congrArg String.ofList hwhole

lemma hasAt_named_iff (sql : String) (position : Nat) (name : String) :
    (parse sql).HasAt (.named name) position ↔
      StartsNamed sql.toList position ∧ name = longestName (sql.toList.drop (position + 1)) := by
  have hdrop : ∀ (as bs : List Char) (c : Char), (as ++ c :: bs).drop (as.length + 1) = bs := by simp
  constructor
  · intro h
    obtain ⟨as, bs, hsql, rfl, hcode, hlead, hstarts, hcontinues, hends⟩ := split_of_hasAt rfl h
    rw [Symbol.source, List.cons_append] at hsql
    have hnext : (name.toList ++ bs).head?.any startsName = true := by
      cases hname : name.toList with
      | nil => simp [hname] at hstarts
      | cons c cs => simpa [hname] using hstarts
    rw [hsql, hdrop, longestName_append hcontinues hends, String.ofList_toList, startsNamed_iff]
    exact ⟨⟨rfl, by rw [opensMarker, hcode, hlead, hnext]; rfl⟩, rfl⟩
  · rintro ⟨hstarts, rfl⟩
    obtain ⟨as, bs, hsql, rfl⟩ := exists_split_of_getElem? hstarts.colon
    rw [hsql, startsNamed_iff] at hstarts
    rw [hsql, hdrop]
    obtain ⟨segment, x, rest, hsymbols, hx, hat, hrest, hstands⟩ := exists_hasAt_of_opensMarker hsql hstarts.2
    -- of the two kinds of markers the positional one does not begin with a colon
    rcases Segment.eq_marker_of_symbols_eq hsymbols hx with ⟨rfl, rfl⟩ | ⟨name, rfl, rfl⟩
    · exact absurd (List.cons.inj hrest).1 (by decide)
    · obtain ⟨-, -, -, hcontinues, hends⟩ := hstands
      obtain rfl : bs = name.toList ++ rest := (List.cons.inj hrest).2
      rwa [longestName_append hcontinues hends, String.ofList_toList]

/-- **A statement is read at its positions**: its template is its text, cut at every position where the automaton reads
a marker, and nowhere else. -/
theorem parse_reads (sql : String) : ReadsAs sql.toList (parse sql) where
  text := by rw [← source_flatMap_symbols, (scans_segments sql).2]
  positional := hasAt_positional_iff sql
  named := hasAt_named_iff sql

end Template

end WarehouseSql
