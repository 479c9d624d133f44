import Mathlib.Data.List.Sort
import WarehouseSql.Proofs.Statement.Resolution

/-!
What a statement resolves to, told from the calls that bound its values.  The value given last for a position or a name
is in force (`givenAt`, `givenTo`), and a template takes its markers from these as a text with holes
(`Template.replace`).  **A statement resolves to literals exactly if each marker has a value and no value is left over**
(`resolve_eq_literal_iff`), and `resolve_given` tells all outcomes apart.
-/

namespace WarehouseSql

inductive BindCall where
  | toPosition (position : Nat) (binding : Binding)
  | toName (name : String) (binding : Binding)
  | toAll (values : List Value)

namespace BindCall

open DeferredStatement (numbered)

/-- The positions that a call gives values to, in the order in which it does. -/
def positions : BindCall → List (Nat × Binding)
  | .toPosition position binding => [(position, binding)]
  | .toName _ _ => []
  | .toAll values => numbered 1 values

/-- The names that a call gives values to, without the colons in front. -/
def names : BindCall → List (String × Binding)
  | .toPosition _ _ => []
  | .toName name binding => [(String.ofList (name.toList.dropWhile (· == ':')), binding)]
  | .toAll _ => []

end BindCall

/-- The last value among those given for a key. -/
def lastFor {κ : Type} [BEq κ] (key : κ) (given : List (κ × Binding)) : Option Binding := given.reverse.lookup key

/-- The value that calls give to a position: the last one. -/
def givenAt (calls : List BindCall) (position : Nat) : Option Binding :=
  lastFor position (calls.flatMap BindCall.positions)

/-- The value that calls give to a name: the last one. -/
def givenTo (calls : List BindCall) (name : String) : Option Binding := lastFor name (calls.flatMap BindCall.names)

/-- The literal of the value that calls give to a position. -/
def literalAt (calls : List BindCall) (position : Nat) : String :=
  ((givenAt calls position).map Binding.literal).getD ""

/-- The literal of the value that calls give to a name. -/
def literalTo (calls : List BindCall) (name : String) : String :=
  ((givenTo calls name).map Binding.literal).getD ""

/-- Calls give a value to each positional marker of a template that has no others, and to nothing else. -/
structure FillsPositions (t : Template) (calls : List BindCall) : Prop where
  markers : 0 < t.positionalCount
  unnamed : t.names = []
  exact : ∀ position, (givenAt calls position).isSome = true ↔ 1 ≤ position ∧ position ≤ t.positionalCount
  noNames : ∀ name, givenTo calls name = none

/-- Calls give a value to each name of a template that has named markers only, and to nothing else. -/
structure FillsNames (t : Template) (calls : List BindCall) : Prop where
  markers : t.names ≠ []
  unnumbered : t.positionalCount = 0
  exact : ∀ name, (givenTo calls name).isSome = true ↔ name ∈ t.names
  noPositions : ∀ position, givenAt calls position = none

/-- Calls give no value at all. -/
def GivesNothing (calls : List BindCall) : Prop :=
  (∀ position, givenAt calls position = none) ∧ ∀ name, givenTo calls name = none

/-! ### templates with holes -/

namespace Template

/-- Segments with a text in place of each marker; the next positional marker is the one of number `next`. -/
def replaceFrom (positional : Nat → String) (named : String → String) : Nat → List Segment → List Char
  | _, [] => []
  | next, .text cs :: segments => cs ++ replaceFrom positional named next segments
  | next, .positional :: segments =>
    (positional next).toList ++ replaceFrom positional named (next + 1) segments
  | next, .named name :: segments => (named name).toList ++ replaceFrom positional named next segments

/-- A template with a text in place of each marker: the k-th positional one takes the text of k, counted from one, and
each named one that of its name. -/
def replace (t : Template) (positional : Nat → String) (named : String → String) : String :=
  String.ofList (replaceFrom positional named 1 t.segments)

/-- The markers themselves in place of the markers give the statement back. -/
theorem replace_parse (sql : String) : (parse sql).replace (fun _ => "?") (fun name => ":" ++ name) = sql := by
  have hsource : ∀ (segments : List Segment) (next : Nat),
      replaceFrom (fun _ => "?") (fun name => ":" ++ name) next segments =
        source (symbols (fun _ => none) [] segments) := by
    intro segments
    induction segments with
    | nil => exact fun _ => rfl
    | cons segment segments ih =>
      intro next
      cases segment <;> simp [replaceFrom, symbols, Symbol.source, ih]
  rw [← String.toList_inj, replace, String.toList_ofList, hsource]
  exact source_symbolsOf sql [] fun _ => none

/-- Literals in a row take the places of the positional markers in their order. -/
lemma fill_eq_replaceFrom {positional : Nat → String} {named : String → String} {literals : List String}
    {literal? : String → Option String} {segments : List Segment} {next : Nat}
    (hliterals : literals = (List.range' next (segments.countP (· == .positional))).map positional)
    (hnamed : ∀ name ∈ segments.filterMap Segment.name?, (literal? name).getD "" = named name) :
    fill literal? literals segments = replaceFrom positional named next segments := by
  induction segments generalizing literals next with
  | nil => cases literals <;> rfl
  | cons segment segments ih =>
    cases segment with
    | text cs =>
      rw [fill, replaceFrom, ih (by simpa using hliterals) (by simpa [Segment.name?] using hnamed)]
    | positional =>
      rw [List.countP_cons_of_pos (by rfl), List.range'_succ, List.map_cons] at hliterals
      rw [hliterals, fill, replaceFrom, ih rfl (by simpa [Segment.name?] using hnamed)]
    | named name =>
      obtain ⟨hname, hnamed⟩ : (literal? name).getD "" = named name ∧
          ∀ name ∈ segments.filterMap Segment.name?, (literal? name).getD "" = named name := by
        simpa [Segment.name?] using hnamed
      rw [fill, replaceFrom, hname, ih (by simpa using hliterals) hnamed]

lemma isMixed_eq_false_iff {t : Template} : t.isMixed = false ↔ t.positionalCount = 0 ∨ t.names = [] := by
  simp [isMixed, or_iff_not_imp_left]

lemma hasMarkers_eq_true_iff {t : Template} : t.hasMarkers = true ↔ 0 < t.positionalCount ∨ t.names ≠ [] := by
  simp [hasMarkers, Nat.pos_iff_ne_zero]

/-- A text without markers is the text of its template, whatever the literals for names. -/
lemma render_of_not_hasMarkers {sql : String} (h : (parse sql).hasMarkers = false) (literal? : String → Option String) :
    (parse sql).render [] literal? = sql := by
  obtain ⟨hcount, hnames⟩ : (parse sql).positionalCount = 0 ∧ (parse sql).names = [] := by
    simpa [hasMarkers] using h
  refine (congrArg String.ofList (fill_eq_replaceFrom ?_ ?_)).trans (replace_parse sql)
  · exact (congrArg (fun count => (List.range' 1 count).map fun _ => "?") hcount).symm
  · intro name hname
    have hname : name ∈ (parse sql).names := hname
    rw [hnames] at hname
    exact absurd hname List.not_mem_nil

end Template

/-! ### entries -/

lemma lookup_cons_eq_ite {κ α : Type} [DecidableEq κ] (key k : κ) (value : α) (entries : List (κ × α)) :
    ((key, value) :: entries).lookup k = if k = key then some value else entries.lookup k := by
  rw [List.lookup_cons]
  by_cases h : k = key
  · rw [if_pos h, beq_iff_eq.2 h]
  · rw [if_neg h, beq_eq_false_iff_ne.2 h]

lemma lookup_insertEntry {κ α : Type} [LT κ] [DecidableLT κ] [DecidableEq κ] (key k : κ) (value : α)
    (entries : List (κ × α)) :
    (insertEntry key value entries).lookup k = if k = key then some value else entries.lookup k := by
  induction entries with
  | nil => exact lookup_cons_eq_ite key k value []
  | cons entry entries ih =>
    obtain ⟨held, old⟩ := entry
    rw [insertEntry]
    by_cases hlt : key < held
    · rw [if_pos hlt]
      exact lookup_cons_eq_ite key k value _
    · rw [if_neg hlt]
      by_cases heq : key = held
      · rw [if_pos heq, lookup_cons_eq_ite, lookup_cons_eq_ite, ← heq]
        split_ifs <;> rfl
      · rw [if_neg heq, lookup_cons_eq_ite, ih, lookup_cons_eq_ite]
        by_cases h : k = held
        · have hne : k ≠ key := fun hkey => heq (hkey.symm.trans h)
          rw [if_pos h, if_neg hne, if_pos h]
        · rw [if_neg h, if_neg h]

lemma mem_of_lookup {κ α : Type} [DecidableEq κ] {key : κ} {value : α} {entries : List (κ × α)}
    (h : entries.lookup key = some value) : (key, value) ∈ entries := by
  obtain ⟨before, after, rfl, -⟩ := List.lookup_eq_some_iff.1 h
  exact List.mem_append_right _ List.mem_cons_self

lemma lookup_of_mem {entries : List (Nat × Binding)} (h : entries.Pairwise (·.1 < ·.1)) {entry : Nat × Binding}
    (hentry : entry ∈ entries) : entries.lookup entry.1 = some entry.2 := by
  obtain ⟨before, after, rfl⟩ := List.append_of_mem hentry
  refine List.lookup_eq_some_iff.2 ⟨before, after, rfl, fun other hother => ?_⟩
  have hlt : other.1 < entry.1 := (List.pairwise_append.1 h).2.2 other hother entry List.mem_cons_self
  exact bne_iff_ne.2 (Nat.ne_of_gt hlt)

lemma eq_nil_iff_forall_lookup {κ α : Type} [DecidableEq κ] (entries : List (κ × α)) :
    entries = [] ↔ ∀ key, entries.lookup key = none := by
  refine ⟨fun h key => h ▸ rfl, fun h => List.eq_nil_iff_forall_not_mem.2 fun entry hentry => ?_⟩
  simpa using List.lookup_eq_none_iff.1 (h entry.1) entry hentry

lemma pairwise_insertEntry {entries : List (Nat × Binding)} (key : Nat) (value : Binding)
    (h : entries.Pairwise (·.1 < ·.1)) : (insertEntry key value entries).Pairwise (·.1 < ·.1) := by
  have hmem : ∀ {entries : List (Nat × Binding)} {entry}, entry ∈ insertEntry key value entries →
      entry = (key, value) ∨ entry ∈ entries := by
    intro entries
    induction entries with
    | nil => simp [insertEntry]
    | cons head rest ih =>
      intro entry hentry
      rw [insertEntry] at hentry
      split_ifs at hentry with hlt heq
      · simpa using hentry
      · exact (List.mem_cons.1 hentry).imp_right (List.mem_cons_of_mem _)
      · rcases List.mem_cons.1 hentry with rfl | hentry
        · exact .inr List.mem_cons_self
        · exact (ih hentry).imp_right (List.mem_cons_of_mem _)
  induction entries with
  | nil => simp [insertEntry]
  | cons head rest ih =>
    obtain ⟨hhead, hrest⟩ := List.pairwise_cons.1 h
    rw [insertEntry]
    split_ifs with hlt heq
    · refine List.pairwise_cons.2 ⟨fun entry hentry => ?_, h⟩
      rcases List.mem_cons.1 hentry with rfl | hentry
      · exact hlt
      · exact Nat.lt_trans hlt (hhead entry hentry)
    · exact List.pairwise_cons.2 ⟨fun entry hentry => heq ▸ hhead entry hentry, hrest⟩
    · refine List.pairwise_cons.2 ⟨fun entry hentry => ?_, ih hrest⟩
      rcases hmem hentry with rfl | hentry
      · exact (Nat.lt_or_gt_of_ne heq).resolve_left hlt
      · exact hhead entry hentry

lemma lastFor_concat {κ : Type} [DecidableEq κ] (key k : κ) (given : List (κ × Binding)) (value : Binding) :
    lastFor key (given ++ [(k, value)]) = if key = k then some value else lastFor key given := by
  rw [lastFor, List.reverse_append, List.reverse_singleton, List.singleton_append, lookup_cons_eq_ite, lastFor]

namespace DeferredStatement

/-! ### what calls leave behind -/

def give (s : DeferredStatement) : BindCall → Except StatementError DeferredStatement
  | .toPosition position binding => s.bind position binding
  | .toName name binding => s.bindNamed name binding
  | .toAll values => s.bindAll values

/-- A statement that holds the values given last for positions and names. -/
structure Holds (sql : String) (skipsConstraints : Bool) (positions : List (Nat × Binding))
    (names : List (String × Binding)) (s : DeferredStatement) : Prop where
  sql : s.sql = sql
  skips : s.skipsConstraints = skipsConstraints
  ordered : s.positional.Pairwise (·.1 < ·.1)
  position : ∀ k, s.positional.lookup k = lastFor k positions
  name : ∀ name, s.named.lookup name = lastFor name names

namespace Holds

variable {sql : String} {skipsConstraints : Bool} {positions : List (Nat × Binding)}
  {names : List (String × Binding)} {s t : DeferredStatement}

lemma fresh (sql : String) (skipsConstraints : Bool) :
    Holds sql skipsConstraints [] [] (DeferredStatement.fresh sql skipsConstraints) :=
  ⟨rfl, rfl, .nil, fun _ => rfl, fun _ => rfl⟩

lemma bind (h : Holds sql skipsConstraints positions names s) {position : Nat} {binding : Binding}
    (ht : s.bind position binding = .ok t) :
    Holds sql skipsConstraints (positions ++ [(position, binding)]) names t := by
  unfold DeferredStatement.bind at ht
  split_ifs at ht
  cases ht
  refine ⟨h.sql, h.skips, pairwise_insertEntry _ _ h.ordered, fun k => ?_, h.name⟩
  rw [lookup_insertEntry, lastFor_concat, h.position]

lemma bindNamed (h : Holds sql skipsConstraints positions names s) {name : String} {binding : Binding}
    (ht : s.bindNamed name binding = .ok t) :
    Holds sql skipsConstraints positions (names ++ (BindCall.toName name binding).names) t := by
  unfold DeferredStatement.bindNamed at ht
  split_ifs at ht
  cases ht
  refine ⟨h.sql, h.skips, h.ordered, h.position, fun k => ?_⟩
  rw [lookup_insertEntry, BindCall.names, lastFor_concat, h.name]

lemma bindFrom {values : List Value} {start : Nat} (h : Holds sql skipsConstraints positions names s)
    (ht : s.bindFrom start values = .ok t) :
    Holds sql skipsConstraints (positions ++ numbered start values) names t := by
  induction values generalizing s start positions with
  | nil =>
    cases ht
    rwa [numbered, List.append_nil]
  | cons value values ih =>
    have ht : (s.bind start ⟨value, none⟩ >>= fun bound => bound.bindFrom (start + 1) values) = .ok t := ht
    cases hbind : s.bind start ⟨value, none⟩ with
    | error error => simp [hbind, Bind.bind, Except.bind] at ht
    | ok bound =>
      rw [hbind] at ht
      have hrest := ih (h.bind hbind) ht
      rwa [List.append_assoc] at hrest

/-- **One call adds what it gives.** -/
lemma give (h : Holds sql skipsConstraints positions names s) {call : BindCall} (ht : s.give call = .ok t) :
    Holds sql skipsConstraints (positions ++ call.positions) (names ++ call.names) t := by
  cases call with
  | toPosition position binding =>
    rw [BindCall.names, List.append_nil]
    exact h.bind ht
  | toName name binding =>
    rw [BindCall.positions, List.append_nil]
    exact h.bindNamed ht
  | toAll values =>
    rw [BindCall.names, List.append_nil]
    exact h.bindFrom ht

/-- **Calls add what they give, one after another.** -/
lemma foldlM_give (h : Holds sql skipsConstraints positions names s) {calls : List BindCall}
    (ht : calls.foldlM DeferredStatement.give s = .ok t) :
    Holds sql skipsConstraints (positions ++ calls.flatMap BindCall.positions)
      (names ++ calls.flatMap BindCall.names) t := by
  induction calls generalizing s positions names with
  | nil =>
    cases ht
    simpa using h
  | cons call calls ih =>
    rw [List.foldlM_cons] at ht
    cases hgive : s.give call with
    | error error => simp [hgive, Bind.bind, Except.bind] at ht
    | ok bound =>
      rw [hgive] at ht
      have hrest := ih (h.give hgive) ht
      simpa [List.flatMap_cons, List.append_assoc] using hrest

/-- The bound positions are exactly the first ones when their numbers stand in a row. -/
lemma map_fst_eq_range'_iff (h : Holds sql skipsConstraints positions names s) (n : Nat) :
    s.positional.map Prod.fst = List.range' 1 n ↔ ∀ k, (lastFor k positions).isSome = true ↔ 1 ≤ k ∧ k ≤ n := by
  have hmem : ∀ k, k ∈ s.positional.map Prod.fst ↔ (lastFor k positions).isSome = true := by
    intro k
    rw [← h.position, List.lookup_isSome_iff, List.mem_map]
    exact ⟨fun ⟨entry, hentry, hk⟩ => ⟨entry, hentry, by simp [hk]⟩,
      fun ⟨entry, hentry, hk⟩ => ⟨entry, hentry, (beq_iff_eq.1 hk).symm⟩⟩
  have hrange : ∀ k, k ∈ List.range' 1 n ↔ 1 ≤ k ∧ k ≤ n := by
    intro k
    rw [List.mem_range'_1]
    omega
  constructor
  · intro heq k
    rw [← hmem, heq, hrange]
  · intro hall
    have hordered : (s.positional.map Prod.fst).Pairwise (· < ·) := List.pairwise_map.2 h.ordered
    refine hordered.eq_of_mem_iff List.pairwise_lt_range' fun k => ?_
    rw [hmem, hall, hrange]

lemma map_literal_eq (h : Holds sql skipsConstraints positions names s) {n : Nat}
    (hrange : s.positional.map Prod.fst = List.range' 1 n) :
    s.positional.map (fun entry => entry.2.literal) =
      (List.range' 1 n).map fun k => ((lastFor k positions).map Binding.literal).getD "" := by
  rw [← hrange, List.map_map]
  refine List.map_congr_left fun entry hentry => ?_
  rw [Function.comp_apply, ← h.position, lookup_of_mem h.ordered hentry]
  rfl

lemma positional_eq_nil_iff (h : Holds sql skipsConstraints positions names s) :
    s.positional = [] ↔ ∀ k, lastFor k positions = none := by
  simp only [← h.position]
  exact eq_nil_iff_forall_lookup s.positional

lemma named_eq_nil_iff (h : Holds sql skipsConstraints positions names s) :
    s.named = [] ↔ ∀ name, lastFor name names = none := by
  simp only [← h.name]
  exact eq_nil_iff_forall_lookup s.named

end Holds

/-! ### resolving what has been given -/

section Given

open Template (parse fill_eq_replaceFrom replace_parse hasMarkers_eq_true_iff isMixed_eq_false_iff)

variable {sql : String} {skipsConstraints : Bool} {calls : List BindCall} {s : DeferredStatement}

/-- A statement that calls have led to from a fresh one. -/
abbrev LedTo (sql : String) (skipsConstraints : Bool) (calls : List BindCall) (s : DeferredStatement) : Prop :=
  Holds sql skipsConstraints (calls.flatMap BindCall.positions) (calls.flatMap BindCall.names) s

lemma ledTo_of_foldlM_give (h : calls.foldlM give (fresh sql skipsConstraints) = .ok s) :
    LedTo sql skipsConstraints calls s :=
  (Holds.fresh sql skipsConstraints).foldlM_give h

/-- A statement resolves to the template with the literals of what has been given. -/
lemma render_eq_replace (h : LedTo sql skipsConstraints calls s) {texts : List String}
    (htexts : texts = (List.range' 1 (parse sql).positionalCount).map (literalAt calls)) :
    (parse sql).render texts (fun name => (s.named.lookup name).map Binding.literal) =
      (parse sql).replace (literalAt calls) (literalTo calls) := by
  refine congrArg String.ofList (fill_eq_replaceFrom htexts fun name _ => ?_)
  rw [h.name]
  rfl

/-- **Literals stand exactly for a value for each marker and none besides.** -/
theorem resolve_eq_literal_iff (h : LedTo sql skipsConstraints calls s) (text : String) :
    s.resolve = .ok (.literal text) ↔
      (FillsPositions (parse sql) calls ∨ FillsNames (parse sql) calls) ∧
        text = (parse sql).replace (literalAt calls) (literalTo calls) := by
  have htemplate : s.template = parse sql := by rw [template, h.sql]
  rw [resolve_eq_ok_literal_iff, htemplate, hasMarkers_eq_true_iff, isMixed_eq_false_iff]
  constructor
  · rintro ⟨hmarkers, hmixed, texts, named, hpositional, hnamed, rfl⟩
    obtain ⟨rfl, hcases⟩ := positionalLiterals_eq_ok_iff.1 hpositional
    obtain ⟨rfl, hexact⟩ := namedLiterals_eq_ok_iff.1 hnamed
    rcases hcases with ⟨hcount, hnone⟩ | ⟨hcount, hnone, hrange⟩
    · -- no positional markers, so that there are names
      have hnames : (parse sql).names ≠ [] := hmarkers.resolve_left (by omega)
      refine ⟨.inr ⟨hnames, hcount, fun name => ?_, h.positional_eq_nil_iff.1 hnone⟩, render_eq_replace h ?_⟩
      · rw [givenTo, ← h.name, hexact]
      · rw [hnone, hcount]
        rfl
    · -- positional markers, so that there are no names
      have hnames : (parse sql).names = [] := hmixed.resolve_left (by omega)
      refine ⟨.inl ⟨hcount, hnames, (h.map_fst_eq_range'_iff _).1 hrange, h.named_eq_nil_iff.1 hnone⟩, ?_⟩
      exact render_eq_replace h (h.map_literal_eq hrange)
  · rintro ⟨hfills | hfills, rfl⟩
    · have hrange := (h.map_fst_eq_range'_iff _).2 hfills.exact
      have hnone := h.named_eq_nil_iff.2 hfills.noNames
      refine ⟨.inl hfills.markers, .inr hfills.unnamed, _, _,
        positionalLiterals_eq_ok_iff.2 ⟨rfl, .inr ⟨hfills.markers, hnone, hrange⟩⟩,
        namedLiterals_eq_ok_iff.2 ⟨rfl, ?_⟩, (render_eq_replace h (h.map_literal_eq hrange)).symm⟩
      simp [hnone, hfills.unnamed]
    · have hnone := h.positional_eq_nil_iff.2 hfills.noPositions
      refine ⟨.inr hfills.markers, .inl hfills.unnumbered, _, _,
        positionalLiterals_eq_ok_iff.2 ⟨rfl, .inl ⟨hfills.unnumbered, hnone⟩⟩,
        namedLiterals_eq_ok_iff.2 ⟨rfl, fun name => ?_⟩, (render_eq_replace h ?_).symm⟩
      · rw [h.name]
        exact hfills.exact name
      · rw [hnone, hfills.unnumbered]
        rfl

lemma resolve_eq_direct_iff (h : LedTo sql skipsConstraints calls s) (text : String) :
    s.resolve = .ok (.direct text) ↔
      (parse sql).hasMarkers = false ∧ ¬ (skipsConstraints = true ∧ isConstraint sql = true) ∧
        GivesNothing calls ∧ text = sql := by
  rw [resolve_eq_ok_direct_iff, template, h.sql, h.skips, h.positional_eq_nil_iff, h.named_eq_nil_iff]
  rfl

lemma resolve_eq_skip_iff (h : LedTo sql skipsConstraints calls s) (text : String) :
    s.resolve = .ok (.skip text) ↔
      (parse sql).hasMarkers = false ∧ (skipsConstraints = true ∧ isConstraint sql = true) ∧ text = sql := by
  rw [resolve_eq_ok_skip_iff, template, h.sql, h.skips]

/-- **The bindings decide exactly what a statement resolves to.**  It resolves to literals if the calls give a value to
each marker of one kind and to nothing else; the text is then the template with the literals in place of its markers, and
with the markers themselves in their places the template is the statement.  It resolves to the statement as it is if
this has no markers, nothing is given and the statement is not skipped.  In every other case but a skip it fails. -/
theorem resolve_given (sql : String) (skipsConstraints : Bool) (calls : List BindCall)
    (h : calls.foldlM give (fresh sql skipsConstraints) = .ok s) :
    (∀ text, s.resolve = .ok (.literal text) ↔
      (FillsPositions (parse sql) calls ∨ FillsNames (parse sql) calls) ∧
        text = (parse sql).replace (literalAt calls) (literalTo calls)) ∧
    (parse sql).replace (fun _ => "?") (fun name => ":" ++ name) = sql ∧
    (∀ text, s.resolve = .ok (.direct text) ↔
      (parse sql).hasMarkers = false ∧ ¬ (skipsConstraints = true ∧ isConstraint sql = true) ∧
        GivesNothing calls ∧ text = sql) ∧
    (∀ text, s.resolve = .ok (.skip text) ↔
      (parse sql).hasMarkers = false ∧ (skipsConstraints = true ∧ isConstraint sql = true) ∧ text = sql) ∧
    ((∃ error, s.resolve = .error error) ↔
      ¬ (FillsPositions (parse sql) calls ∨ FillsNames (parse sql) calls) ∧
        ¬ ((parse sql).hasMarkers = false ∧
          (GivesNothing calls ∨ skipsConstraints = true ∧ isConstraint sql = true))) := by
  have hled := ledTo_of_foldlM_give h
  have hliteral := resolve_eq_literal_iff hled
  have hdirect := resolve_eq_direct_iff hled
  have hskip := resolve_eq_skip_iff hled
  refine ⟨hliteral, replace_parse sql, hdirect, hskip, ?_, ?_⟩
  · rintro ⟨error, herror⟩
    refine ⟨fun hfills => ?_, fun ⟨hmarkers, hcases⟩ => ?_⟩
    · have hok := (hliteral _).2 ⟨hfills, rfl⟩
      simp [herror] at hok
    · by_cases hskips : skipsConstraints = true ∧ isConstraint sql = true
      · have hok := (hskip _).2 ⟨hmarkers, hskips, rfl⟩
        simp [herror] at hok
      · have hok := (hdirect _).2 ⟨hmarkers, hskips, hcases.resolve_right hskips, rfl⟩
        simp [herror] at hok
  · -- each way to resolve is one of those that are ruled out
    rintro ⟨hfills, hnone⟩
    cases hresolve : s.resolve with
    | error error => exact ⟨error, rfl⟩
    | ok resolution =>
      cases resolution with
      | skip text =>
        obtain ⟨hmarkers, hskips, -⟩ := (hskip text).1 hresolve
        exact absurd ⟨hmarkers, .inr hskips⟩ hnone
      | direct text =>
        obtain ⟨hmarkers, -, hnothing, -⟩ := (hdirect text).1 hresolve
        exact absurd ⟨hmarkers, .inl hnothing⟩ hnone
      | literal text => exact absurd ((hliteral text).1 hresolve).1 hfills

theorem resolve_given_overwritten :
    ∃ s, [.toPosition 3 ⟨.text "c", none⟩, .toAll [.int (-1), .null], .toPosition 2 ⟨.text "b'", some .text⟩].foldlM
        give (fresh "select ?, '?', -? -- ?\n, ?" false) = .ok s ∧
      s.resolve = .ok (.literal "select (-1), '?', -'b''' -- ?\n, 'c'") := by
  obtain ⟨s, hs⟩ : ∃ s, [.toPosition 3 ⟨.text "c", none⟩, .toAll [.int (-1), .null],
      .toPosition 2 ⟨.text "b'", some .text⟩].foldlM give (fresh "select ?, '?', -? -- ?\n, ?" false) = .ok s :=
    ⟨_, rfl⟩
  obtain ⟨hliteral, -⟩ := resolve_given _ false _ hs
  refine ⟨s, hs, (hliteral _).2 ⟨.inl ⟨by decide +kernel, by decide +kernel, ?_, fun _ => rfl⟩, by decide +kernel⟩⟩
  intro position
  match position with
  | 0 | 1 | 2 | 3 => decide +kernel
  | position + 4 =>
    have hcount : (parse "select ?, '?', -? -- ?\n, ?").positionalCount = 3 := by decide +kernel
    rw [hcount]
    simp [givenAt, lastFor, BindCall.positions, numbered]

end Given

end DeferredStatement

end WarehouseSql
