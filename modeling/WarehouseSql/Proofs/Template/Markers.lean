import WarehouseSql.Proofs.Template.Inlining

/-!
The markers of a template on a list of symbols that its text scans as.  Since a text scans in one way only, any such
list gives the count and the names (`positionalCount_eq`, `names_eq`), and **with the same literals it is the list of
symbols of the template** (`symbolsOf_eq`).
-/

namespace WarehouseSql

namespace Symbol

@[simp]
def name? : Symbol → Option String
  | .char _ => none
  | .positional _ => none
  | .named name _ => some name

@[simp]
def literal? : Symbol → Option (List Char)
  | .char _ => none
  | .positional literal => some literal
  | .named _ _ => none

lemma name?_bare (x : Symbol) : x.bare.name? = x.name? := by cases x <;> rfl

lemma length_literal?_bare (x : Symbol) : x.bare.literal?.toList.length = x.literal?.toList.length := by
  cases x <;> rfl

end Symbol

namespace Template

def markerNames (m : List Symbol) : List String := m.filterMap Symbol.name?

def literals (m : List Symbol) : List (List Char) := m.filterMap Symbol.literal?

@[simp] lemma markerNames_nil : markerNames [] = [] := rfl

@[simp] lemma literals_nil : literals [] = [] := rfl

@[simp] lemma markerNames_cons (x : Symbol) (m : List Symbol) :
    markerNames (x :: m) = x.name?.toList ++ markerNames m := by
  cases x <;> rfl

@[simp] lemma literals_cons (x : Symbol) (m : List Symbol) : literals (x :: m) = x.literal?.toList ++ literals m := by
  cases x <;> rfl

@[simp] lemma markerNames_append (m n : List Symbol) : markerNames (m ++ n) = markerNames m ++ markerNames n :=
  List.filterMap_append

@[simp] lemma literals_append (m n : List Symbol) : literals (m ++ n) = literals m ++ literals n :=
  List.filterMap_append

@[simp] lemma markerNames_chars (cs : List Char) : markerNames (chars cs) = [] := by
  simp [markerNames, chars]

@[simp] lemma literals_chars (cs : List Char) : literals (chars cs) = [] := by
  simp [literals, chars]

lemma markerNames_bare (m : List Symbol) : markerNames (m.map Symbol.bare) = markerNames m := by
  induction m with
  | nil => rfl
  | cons x m ih => rw [List.map_cons, markerNames_cons, markerNames_cons, Symbol.name?_bare, ih]

lemma length_literals_bare (m : List Symbol) : (literals (m.map Symbol.bare)).length = (literals m).length := by
  induction m with
  | nil => rfl
  | cons x m ih =>
    rw [List.map_cons, literals_cons, literals_cons, List.length_append, List.length_append,
      Symbol.length_literal?_bare, ih]

lemma eq_chars {m : List Symbol} (hliterals : literals m = []) (hnames : markerNames m = []) :
    m = chars (source m) := by
  induction m with
  | nil => rfl
  | cons x m ih =>
    cases x with
    | char c => exact congrArg (Symbol.char c :: ·) (ih hliterals hnames)
    | positional _ => simp at hliterals
    | named name _ => simp at hnames

/-! ### the symbols of segments -/

lemma markerNames_symbols (named : String → Option String) (texts : List String) (segments : List Segment) :
    markerNames (symbols named texts segments) = segments.filterMap Segment.name? := by
  fun_induction symbols named texts segments <;> simp_all [Segment.name?, List.filterMap_cons]

lemma length_literals_symbols (named : String → Option String) (texts : List String) (segments : List Segment) :
    (literals (symbols named texts segments)).length = segments.countP (· == .positional) := by
  fun_induction symbols named texts segments <;> simp_all [Nat.add_comm]

lemma literals_symbols (named : String → Option String) {texts : List String} {segments : List Segment}
    (h : texts.length = segments.countP (· == .positional)) :
    literals (symbols named texts segments) = texts.map String.toList := by
  fun_induction symbols named texts segments <;> simp_all

lemma literal_of_mem_symbols {named : String → Option String} {texts : List String} {segments : List Segment}
    {name : String} {literal : List Char} (h : .named name literal ∈ symbols named texts segments) :
    literal = ((named name).getD "").toList := by
  fun_induction symbols named texts segments <;> simp_all [chars]
  rcases h with ⟨rfl, rfl⟩ | h
  · rfl
  · simp_all

lemma filled_symbols {named : String → Option String} {texts : List String} {segments : List Segment}
    (hlength : texts.length = segments.countP (· == .positional))
    (htexts : ∀ text ∈ texts, LiteralForm text.toList)
    (hnamed : ∀ name ∈ segments.filterMap Segment.name?,
      ∃ text, named name = some text ∧ LiteralForm text.toList) :
    Filled (symbols named texts segments) := by
  intro x hx hmarker
  cases x with
  | char c => simp [Symbol.isMarker] at hmarker
  | positional literal =>
    have hmem : literal ∈ literals (symbols named texts segments) :=
      List.mem_filterMap.2 ⟨_, hx, rfl⟩
    rw [literals_symbols named hlength] at hmem
    obtain ⟨text, htext, rfl⟩ := List.mem_map.1 hmem
    exact htexts text htext
  | named name literal =>
    have hmem : name ∈ markerNames (symbols named texts segments) := List.mem_filterMap.2 ⟨_, hx, rfl⟩
    rw [markerNames_symbols] at hmem
    obtain ⟨text, htext, hform⟩ := hnamed name hmem
    rw [literal_of_mem_symbols hx, htext]
    exact hform

/-! ### any reading -/

variable {sql : String} {m : List Symbol}

lemma bare_symbolsOf (hscans : Scans .code none m) (hsource : source m = sql.toList) (texts : List String)
    (named : String → Option String) : (symbolsOf sql texts named).map Symbol.bare = m.map Symbol.bare :=
  bare_eq_of_scans (scans_symbolsOf sql texts named) hscans ((source_symbolsOf sql texts named).trans hsource.symm)

lemma names_eq (hscans : Scans .code none m) (hsource : source m = sql.toList) : (parse sql).names = markerNames m := by
  have hbare := bare_symbolsOf hscans hsource [] fun _ => none
  rw [← markerNames_bare m, ← hbare, markerNames_bare]
  exact (markerNames_symbols _ _ _).symm

lemma positionalCount_eq (hscans : Scans .code none m) (hsource : source m = sql.toList) :
    (parse sql).positionalCount = (literals m).length := by
  have hbare := bare_symbolsOf hscans hsource [] fun _ => none
  rw [← length_literals_bare m, ← hbare, length_literals_bare]
  exact (length_literals_symbols _ _ _).symm

/-- A text without markers consists of its characters, whatever the literals are. -/
lemma symbolsOf_eq_chars (h : (parse sql).hasMarkers = false) (texts : List String) (named : String → Option String) :
    symbolsOf sql texts named = chars sql.toList := by
  have hscans := scans_symbolsOf sql texts named
  have hsource := source_symbolsOf sql texts named
  obtain ⟨hcount, hnames⟩ : (parse sql).positionalCount = 0 ∧ (parse sql).names = [] := by
    simpa [hasMarkers] using h
  rw [positionalCount_eq hscans hsource, List.length_eq_zero_iff] at hcount
  rw [names_eq hscans hsource] at hnames
  rw [← hsource]
  exact eq_chars hcount hnames

/-- A text has markers exactly when one starts in it. -/
theorem hasMarkers_eq_false_iff : (parse sql).hasMarkers = false ↔ Unmarked .code none none sql.toList := by
  constructor
  · intro h
    have hscans := scans_symbolsOf sql [] fun _ => none
    rw [symbolsOf_eq_chars h] at hscans
    exact scans_chars.1 hscans
  · intro h
    have hscans := scans_chars.2 h
    rw [hasMarkers, positionalCount_eq hscans (source_chars _), names_eq hscans (source_chars _)]
    simp

/-- Symbols are told apart by what they are without literals, and by their literals. -/
lemma eq_of_bare_eq {m n : List Symbol} (hbare : m.map Symbol.bare = n.map Symbol.bare)
    (hliterals : literals m = literals n) (hnames : markerNames n = []) : m = n := by
  induction m generalizing n with
  | nil => simpa using hbare.symm
  | cons x m ih =>
    cases n with
    | nil => simp at hbare
    | cons y n =>
      obtain ⟨hxy, htail⟩ := List.cons.inj hbare
      obtain ⟨rfl, hliterals, hnames⟩ : x = y ∧ literals m = literals n ∧ markerNames n = [] := by
        clear ih
        cases x <;> cases y <;> simp_all [Symbol.bare]
      rw [ih htail hliterals hnames]

/-- A text that scans without named markers has its positional literals in their places. -/
theorem symbolsOf_eq (hscans : Scans .code none m) (hsource : source m = sql.toList) (hnames : markerNames m = [])
    {texts : List String} (htexts : literals m = texts.map String.toList) (named : String → Option String) :
    symbolsOf sql texts named = m := by
  refine eq_of_bare_eq (bare_symbolsOf hscans hsource texts named) ?_ hnames
  have hlength : texts.length = (parse sql).segments.countP (· == .positional) := by
    have hcount := positionalCount_eq hscans hsource
    rw [htexts, List.length_map] at hcount
    exact hcount.symm
  rw [htexts]
  exact literals_symbols named hlength

end Template

end WarehouseSql
