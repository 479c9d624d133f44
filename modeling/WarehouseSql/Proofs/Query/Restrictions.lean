import WarehouseSql.Proofs.Query.RowIds
import WarehouseSql.Proofs.Query.Selecting

/-!
What restricts the rows of a change.  A change of a joined or limited query is restricted by the selection of its row
identifiers, which carries all joins and conditions, the limit and the offset (`Dialect.Carries`); any other change ends
in the conditions that a selection from the same table ends in (`Dialect.EndsAlike`).  **No restriction is dropped,
unless the query skips rows and has neither joins nor a limit** (`Dialect.keepsRestrictions_iff`); then the offset is
dropped, and the change concerns all rows (`Dialect.exists_offset_dropped`).
-/

namespace WarehouseSql

/-! ### parts of sentences -/

namespace Text

lemma length_trim_le (s : String) : (trim s).length ≤ s.length := by
  have hend := length_trimEndChars_le (trimStartChars s.toList)
  have hstart : (trimStartChars s.toList).length ≤ s.toList.length := (List.dropWhile_sublist _).length_le
  rw [trim, String.length_ofList, trimChars, ← String.length_toList (s := s)]
  omega

lemma trim_ne_empty {s : String} {c : Char} (hc : c ∈ s.toList) (hblank : isBlank c = false) : trim s ≠ "" := by
  intro htrim
  have hmem := mem_trim hc hblank
  rw [htrim] at hmem
  exact absurd hmem List.not_mem_nil

lemma trim_append_ne_empty {word : String} {c : Char} (hc : c ∈ word.toList) (hblank : isBlank c = false)
    (rest : String) : trim (word ++ rest) ≠ "" := by
  refine trim_ne_empty ?_ hblank
  rw [String.toList_append]
  exact List.mem_append_left _ hc

end Text

lemma length_le_intercalate (separator : String) {word : String} {words : List String} (h : word ∈ words) :
    word.length ≤ (String.intercalate separator words).length := by
  induction words with
  | nil => exact absurd h List.not_mem_nil
  | cons first rest ih =>
    cases rest with
    | nil =>
      rw [List.mem_singleton.1 h, String.intercalate_singleton]
    | cons second rest =>
      rw [String.intercalate_cons_cons, String.length_append, String.length_append]
      rcases List.mem_cons.1 h with rfl | h
      · omega
      · have hrest := ih h
        omega

namespace Fragment

/-- The words of a sentence: what is left of each part without blanks at its ends. -/
def sentenceWords (parts : List Fragment) : List String := (parts.map fun part => Text.trim part.sql).filter (· != "")

/-- What a part adds to the sentence before it. -/
def ending (part : Fragment) : String := if Text.trim part.sql = "" then "" else " " ++ Text.trim part.sql

lemma ending_empty : ending .empty = "" := by decide

lemma join_sentenceWords (parts : List Fragment) :
    String.join ((sentenceWords parts).map (" " ++ ·)) = String.join (parts.map ending) := by
  induction parts with
  | nil => rfl
  | cons part parts ih =>
    have hwords : sentenceWords (part :: parts) =
        if Text.trim part.sql = "" then sentenceWords parts else Text.trim part.sql :: sentenceWords parts := by
      rw [sentenceWords, List.map_cons, List.filter_cons]
      by_cases hpart : Text.trim part.sql = "" <;> simp [hpart, sentenceWords]
    rw [hwords, List.map_cons, String.join_cons, ending]
    split_ifs with hpart
    · rw [ih, String.empty_append]
    · rw [List.map_cons, String.join_cons, ih]

/-- A sentence is its first part, and what each other one adds. -/
lemma sentence_cons {first : Fragment} (h : Text.trim first.sql ≠ "") (parts : List Fragment) :
    sentence (first :: parts) =
      ⟨Text.trim first.sql ++ String.join (parts.map ending), first.bindings ++ parts.flatMap bindings⟩ := by
  have hwords : sentenceWords (first :: parts) = Text.trim first.sql :: sentenceWords parts := by
    rw [sentenceWords, List.map_cons, List.filter_cons, if_pos (bne_iff_ne.2 h), sentenceWords]
  refine (Fragment.mk.injEq ..).mpr ⟨?_, rfl⟩
  rw [← join_sentenceWords, ← Text.intercalate_cons, ← hwords]
  rfl

end Fragment

/-! ### what restricts a query -/

/-- Whether a query skips rows without joining tables or limiting their number. -/
def Query.OnlySkips (q : Query) : Prop := q.joins = [] ∧ q.limit = none ∧ q.offset ≠ none

/-- The query of all columns of the same table under the same conditions. -/
def Query.plain (q : Query) : Query := { Query.empty with source := q.source, clauses := q.clauses }

namespace Dialect

open Fragment

def wherePart (conditions : List (Connective × Fragment)) : Fragment :=
  if conditions.isEmpty then .empty else Fragment.text "where " ++ chain conditions

/-- What restricts the rows of a query, part by part: joins, conditions, limit and offset. -/
def restrictions (d : Dialect) (q : Query) : Compiled (List Fragment) := do
  let joins ← d.joinFragments q.joins
  let conditions ← d.clauseFragments q.clauses
  return [.join " " joins, wherePart conditions, optionalPart (countClause "limit") q.limit,
    optionalPart (countClause "offset") q.offset]

/-- A selection carries parts if they stand in it in their order, each without blanks at its ends, and its bindings begin
with theirs. -/
structure Carries (parts : List Fragment) (selection : Fragment) : Prop where
  written : ∃ before words after, (sentenceWords parts).Sublist words ∧
    selection.sql = before ++ String.intercalate " " words ++ after
  bound : parts.flatMap bindings <+: selection.bindings

/-- A change is restricted by the selection of the row identifiers of a query, which carries all that restricts it. -/
def RestrictedByRows (d : Dialect) (q : Query) (change statement : Fragment) : Prop :=
  ∃ (source label : String) (selection : Fragment) (parts : List Fragment),
    q.source = some (.name source) ∧ rowAlias? source = some label ∧
    d.select (q.onlyColumn (label ++ "." ++ rowId)) = .ok selection ∧
    d.restrictions q = .ok parts ∧ Carries parts selection ∧
    statement = change ++ Fragment.text (" where " ++ d.policy.identifier rowId ++ " in (") ++ selection ++ ")"

/-- A change ends in the conditions in which a selection from the same table ends, with the same bindings. -/
def EndsAlike (d : Dialect) (q : Query) (table : String) (change statement : Fragment) : Prop :=
  ∃ conditions, d.clauseFragments q.clauses = .ok conditions ∧
    d.select q.plain = .ok ⟨"select * " ++ Text.trim ("from " ++ table) ++ ending (wherePart conditions),
      (wherePart conditions).bindings⟩ ∧
    statement = ⟨Text.trim change.sql ++ ending (wherePart conditions),
      change.bindings ++ (wherePart conditions).bindings⟩

/-- A change keeps all that restricts a query: by the identifiers of its rows if it joins tables, limits or skips rows, else
by its conditions. -/
structure KeepsRestrictions (d : Dialect) (q : Query) (table : String) (change statement : Fragment) : Prop where
  byRows : q.joins ≠ [] ∨ q.limit ≠ none ∨ q.offset ≠ none → d.RestrictedByRows q change statement
  alike : q.joins = [] → q.limit = none → q.offset = none → d.EndsAlike q table change statement

variable {d : Dialect} {q : Query} {table head : String} {change statement : Fragment}

/-! ### selections -/

lemma bindings_optionalPart {α : Type} (write : α → String) (part : Option α) :
    (optionalPart write part).bindings = [] := by
  cases part <;> rfl

lemma Carries.append {parts : List Fragment} {selection : Fragment} (h : Carries parts selection) (after : Fragment) :
    Carries parts (selection ++ after) := by
  obtain ⟨⟨before, words, rest, hwords, hsql⟩, hbound⟩ := h
  refine ⟨⟨before, words, rest ++ after.sql, hwords, ?_⟩, hbound.trans (List.prefix_append _ _)⟩
  rw [sql_append, hsql, String.append_assoc]

lemma Carries.after {parts : List Fragment} {selection : Fragment} (h : Carries parts selection) (opening : String) :
    Carries parts (Fragment.text opening ++ selection) := by
  obtain ⟨⟨before, words, rest, hwords, hsql⟩, hbound⟩ := h
  refine ⟨⟨opening ++ before, words, rest, hwords, ?_⟩, hbound⟩
  rw [sql_append, sql_text, hsql, String.append_assoc, String.append_assoc, String.append_assoc]

/-- A sentence carries some of its parts if no bindings stand before theirs. -/
lemma carries_sentence {parts all : List Fragment} (h : parts.Sublist all)
    (hbound : parts.flatMap bindings <+: all.flatMap bindings) : Carries parts (sentence all) := by
  refine ⟨⟨"", sentenceWords all, "", (h.map _).filter _, ?_⟩, hbound⟩
  rw [String.empty_append, String.append_empty]
  rfl

lemma carries_singleSelect (q : Query) (parts : Parts) (head : String) :
    Carries [parts.joins, parts.clauses, optionalPart (countClause "limit") q.limit,
      optionalPart (countClause "offset") q.offset] (d.singleSelect q parts head) := by
  refine carries_sentence ?_ ?_
  · exact .cons _ (.cons _ (.cons_cons _ (.cons_cons _ (.cons _ (.cons _ (.cons _ (.cons_cons _ (.cons_cons _
      (.cons _ .slnil)))))))))
  · simp [bindings_optionalPart]

lemma exists_append_join (separator : String) (first : Fragment) (rest : List Fragment) :
    ∃ more, Fragment.join separator (first :: rest) = first ++ more := by
  cases rest with
  | nil =>
    refine ⟨.empty, (Fragment.mk.injEq ..).mpr ⟨?_, ?_⟩⟩
    · simp [Fragment.empty]
    · simp [Fragment.empty]
  | cons second rest =>
    refine ⟨⟨separator ++ String.intercalate separator ((second :: rest).map sql), (second :: rest).flatMap bindings⟩,
      (Fragment.mk.injEq ..).mpr ⟨?_, rfl⟩⟩
    rw [List.map_cons, List.map_cons, String.intercalate_cons_cons, String.append_assoc, ← List.map_cons]

lemma carries_unitedSelect (q : Query) (parts : Parts) (head : String) :
    Carries [parts.joins, parts.clauses, optionalPart (countClause "limit") q.limit,
      optionalPart (countClause "offset") q.offset] (d.unitedSelect q parts head) := by
  have hfirst := carries_singleSelect (d := d) q parts head
  rw [unitedSelect]
  cases parts.branches.isEmpty with
  | true => exact hfirst
  | false =>
    obtain ⟨more, hmore⟩ := exists_append_join " " (derived (d.singleSelect q parts head)) (parts.branches
        ++ (if q.unionOrders.isEmpty then [] else [Fragment.text (d.orderClause q.unionOrders)])
        ++ (q.unionLimit.map fun n => Fragment.text (countClause "limit" n)).toList
        ++ (q.unionOffset.map fun n => Fragment.text (countClause "offset" n)).toList)
    have hderived : Carries _ (derived (d.singleSelect q parts head)) := (hfirst.after _).append _
    have hunited := hderived.append more
    rw [← hmore] at hunited
    exact hunited

/-- **The selection of one column carries all that restricts the query.** -/
lemma carries_select {column : String} {selection : Fragment} (h : d.select (q.onlyColumn column) = .ok selection) :
    ∃ parts, d.restrictions q = .ok parts ∧ Carries parts selection := by
  rw [select_eq] at h
  obtain ⟨aggregate, haggregate, h⟩ := Compiled.bind_eq_ok.1 h
  obtain ⟨joins, hjoins, h⟩ := Compiled.bind_eq_ok.1 h
  obtain ⟨conditions, hconditions, h⟩ := Compiled.bind_eq_ok.1 h
  obtain ⟨havings, -, h⟩ := Compiled.bind_eq_ok.1 h
  obtain ⟨lock, -, h⟩ := Compiled.bind_eq_ok.1 h
  obtain ⟨branches, -, h⟩ := Compiled.bind_eq_ok.1 h
  obtain rfl : none = aggregate := Except.ok.inj haggregate
  obtain rfl := Except.ok.inj h
  refine ⟨_, ?_, carries_unitedSelect (q.onlyColumn column) _ _⟩
  change d.joinFragments q.joins = _ at hjoins
  change d.clauseFragments q.clauses = _ at hconditions
  rw [restrictions, hjoins, hconditions]
  rfl

/-- The selection from the same table under the same conditions. -/
lemma select_plain {source : Reference} {conditions : List (Connective × Fragment)} (hsource : q.source = some source)
    (hconditions : d.clauseFragments q.clauses = .ok conditions) :
    d.select q.plain =
      .ok ⟨"select * " ++ Text.trim ("from " ++ d.policy.table source) ++ ending (wherePart conditions),
        (wherePart conditions).bindings⟩ := by
  have hselect : d.select q.plain =
      .ok (.sentence [.text "select *", .text ("from " ++ d.policy.table source), .empty, wherePart conditions, .empty,
        .empty, .empty, .empty, .empty, .empty]) := by
    rw [select_eq]
    change (d.clauseFragments q.clauses >>= fun conditions =>
      Except.ok (Fragment.sentence [.text "select *",
        optionalPart (fun source => "from " ++ d.policy.table source) q.source, .empty, wherePart conditions, .empty,
        .empty, .empty, .empty, .empty, .empty])) = _
    rw [hconditions, hsource]
    rfl
  have hhead : Text.trim (Fragment.text "select *").sql = "select *" := by decide
  have hfrom : ending (Fragment.text ("from " ++ d.policy.table source)) =
      " " ++ Text.trim ("from " ++ d.policy.table source) :=
    if_neg (Text.trim_append_ne_empty (c := 'f') (by decide) (by decide) _)
  have hwords : "select *" ++ " " = "select * " := by decide
  rw [hselect, sentence_cons (by rw [hhead]; decide), hhead]
  refine congrArg Except.ok ((Fragment.mk.injEq ..).mpr ⟨?_, ?_⟩)
  · simp only [List.map_cons, List.map_nil, hfrom, ending_empty, String.join_cons, String.join_nil, String.empty_append,
      String.append_empty]
    rw [← String.append_assoc, ← String.append_assoc, hwords]
  · simp [Fragment.empty]

/-! ### changes -/

lemma exists_of_rowIdQuery? {rows : Query} (h : rowIdQuery? q = some rows) :
    ∃ source label, q.source = some (.name source) ∧ rowAlias? source = some label ∧
      rows = q.onlyColumn (label ++ "." ++ rowId) := by
  unfold rowIdQuery? at h
  split at h
  · next source hsource =>
    obtain ⟨label, hlabel, rfl⟩ := Option.map_eq_some_iff.1 h
    exact ⟨source, label, hsource, hlabel, rfl⟩
  · cases h

/-- A change of a joined or limited query is restricted by the identifiers of its rows. -/
lemma restrictedByRows (hrows : q.joins ≠ [] ∨ q.limit ≠ none) (h : d.restricted q change = .ok statement) :
    d.RestrictedByRows q change statement := by
  have hrestricts : (!q.joins.isEmpty || q.limit.isSome) = true := by
    rw [Bool.or_eq_true, Bool.not_eq_true', List.isEmpty_eq_false_iff, Option.isSome_iff_ne_none]
    exact hrows
  rw [restricted, if_pos hrestricts] at h
  cases hquery : rowIdQuery? q with
  | none =>
    rw [hquery] at h
    cases h
  | some rows =>
    rw [hquery] at h
    obtain ⟨source, label, hsource, hlabel, rfl⟩ := exists_of_rowIdQuery? hquery
    change (d.select (q.onlyColumn (label ++ "." ++ rowId)) >>= fun selection =>
      .ok (change ++ Fragment.text (" where " ++ d.policy.identifier rowId ++ " in (") ++ selection ++ ")")) = _ at h
    obtain ⟨selection, hselection, h⟩ := Compiled.bind_eq_ok.1 h
    obtain ⟨parts, hparts, hcarries⟩ := carries_select hselection
    exact ⟨source, label, selection, parts, hsource, hlabel, hselection, hparts, hcarries, (Except.ok.inj h).symm⟩

/-- Any other change ends in its conditions. -/
lemma exists_of_restricted (hjoins : q.joins = []) (hlimit : q.limit = none) (hchange : Text.trim change.sql ≠ "")
    (h : d.restricted q change = .ok statement) :
    ∃ conditions, d.clauseFragments q.clauses = .ok conditions ∧
      statement = ⟨Text.trim change.sql ++ ending (wherePart conditions),
        change.bindings ++ (wherePart conditions).bindings⟩ := by
  rw [restricted, hjoins, hlimit] at h
  obtain ⟨conditions, hconditions, h⟩ := Compiled.bind_eq_ok.1 h
  obtain rfl : Fragment.sentence [change, wherePart conditions] = statement := Except.ok.inj h
  refine ⟨conditions, hconditions, ?_⟩
  rw [sentence_cons hchange]
  simp

/-- The words of a part are no longer than a selection that carries it. -/
lemma length_ending_le {parts : List Fragment} {part selection : Fragment} (h : Carries parts selection)
    (hpart : part ∈ parts) : (ending part).length ≤ 1 + selection.sql.length := by
  obtain ⟨⟨before, words, after, hwords, hsql⟩, -⟩ := h
  rw [ending]
  split_ifs with hempty
  · exact Nat.zero_le _
  · have hword : Text.trim part.sql ∈ sentenceWords parts :=
      List.mem_filter.2 ⟨List.mem_map_of_mem hpart, bne_iff_ne.2 hempty⟩
    have hlength := length_le_intercalate " " (hwords.subset hword)
    have hspace : " ".length = 1 := rfl
    rw [hsql, String.length_append, String.length_append, String.length_append, hspace]
    omega

/-- A change that ends in its conditions is not restricted by a selection that carries them, which would be longer. -/
lemma not_restrictedByRows {conditions : List (Connective × Fragment)}
    (hconditions : d.clauseFragments q.clauses = .ok conditions) :
    ¬ d.RestrictedByRows q change ⟨Text.trim change.sql ++ ending (wherePart conditions),
      change.bindings ++ (wherePart conditions).bindings⟩ := by
  rintro ⟨source, label, selection, parts, -, -, -, hparts, hcarries, hstatement⟩
  have hmem : wherePart conditions ∈ parts := by
    obtain ⟨joins, -, hparts⟩ := Compiled.bind_eq_ok.1 hparts
    rw [hconditions] at hparts
    obtain rfl := Except.ok.inj hparts
    exact List.mem_cons_of_mem _ List.mem_cons_self
  -- a selection holds the conditions, and more stands before it than the one blank before the conditions
  have hending := length_ending_le hcarries hmem
  have htrim := Text.length_trim_le change.sql
  have hwords : " where ".length = 7 := rfl
  have hsql := congrArg (String.length ∘ Fragment.sql) hstatement
  simp only [Function.comp_apply, sql_append, sql_text, String.length_append, hwords] at hsql
  omega

/-- A change keeps what restricts the query unless this only skips rows. -/
lemma keepsRestrictions_restricted_iff {source : Reference} (hsource : q.source = some source)
    (hchange : Text.trim change.sql ≠ "") (h : d.restricted q change = .ok statement) :
    d.KeepsRestrictions q (d.policy.table source) change statement ↔ ¬ q.OnlySkips := by
  constructor
  · rintro hkeeps ⟨hjoins, hlimit, hoffset⟩
    obtain ⟨conditions, hconditions, rfl⟩ := exists_of_restricted hjoins hlimit hchange h
    exact not_restrictedByRows hconditions (hkeeps.byRows (.inr (.inr hoffset)))
  · intro hskips
    refine ⟨fun hrows => restrictedByRows ?_ h, fun hjoins hlimit hoffset => ?_⟩
    · by_contra hplain
      obtain ⟨hjoins, hlimit⟩ := not_or.1 hplain
      rw [not_not] at hjoins hlimit
      refine hskips ⟨hjoins, hlimit, ?_⟩
      simpa [hjoins, hlimit] using hrows
    · obtain ⟨conditions, hconditions, rfl⟩ := exists_of_restricted hjoins hlimit hchange h
      exact ⟨conditions, hconditions, select_plain hsource hconditions, rfl⟩

lemma exists_source_of_target (h : d.target q = .ok table) :
    ∃ source, q.source = some source ∧ d.policy.table source = table := by
  unfold target at h
  split at h
  · next source hsource => exact ⟨source, hsource, Except.ok.inj h⟩
  · cases h

/-- **Deleting and updating drop no restriction, unless the query only skips rows.**  The rows of a joined or limited query
are selected under all that restricts it, and any other change ends in its conditions; so an offset is dropped if it
stands without joins and without a limit. -/
theorem keepsRestrictions_iff (d : Dialect) (q : Query) :
    (∀ deleted, d.delete q = .ok deleted → ∃ table, d.target q = .ok table ∧
      (d.KeepsRestrictions q table (.text ("delete from " ++ table)) deleted ↔ ¬ q.OnlySkips)) ∧
    ∀ values updated, d.update q values = .ok updated → ∃ table assigned, d.target q = .ok table ∧
      d.assignments values = .ok assigned ∧
      (d.KeepsRestrictions q table (Fragment.text ("update " ++ table ++ " set ") ++ assigned) updated ↔
        ¬ q.OnlySkips) := by
  refine ⟨fun deleted hdeleted => ?_, fun values updated hupdated => ?_⟩
  · obtain ⟨table, htarget, hdeleted⟩ := Compiled.bind_eq_ok.1 hdeleted
    obtain ⟨source, hsource, rfl⟩ := exists_source_of_target htarget
    refine ⟨_, htarget, keepsRestrictions_restricted_iff hsource ?_ hdeleted⟩
    exact Text.trim_append_ne_empty (c := 'd') (by decide) (by decide) _
  · obtain ⟨table, htarget, hupdated⟩ := Compiled.bind_eq_ok.1 hupdated
    obtain ⟨assigned, hassigned, hupdated⟩ := Compiled.bind_eq_ok.1 hupdated
    obtain ⟨source, hsource, rfl⟩ := exists_source_of_target htarget
    refine ⟨_, assigned, htarget, hassigned, keepsRestrictions_restricted_iff hsource ?_ hupdated⟩
    rw [sql_append, sql_text, String.append_assoc, String.append_assoc]
    exact Text.trim_append_ne_empty (c := 'u') (by decide) (by decide) _

/-- Guests of some rooms, of which the first ones are passed over. -/
def laterGuests : Query :=
  { Query.empty with
    source := some (.name "guest as g")
    joins := [⟨.inner, .name "room", [⟨.and, .compareColumns (.name "room.id") "=" (.name "g.room")⟩]⟩]
    clauses := [⟨.and, .compare (.name "g.age") ">" (.value (.int 17))⟩]
    limit := some 5
    offset := some 2 }

theorem keepsRestrictions_iff_laterGuests :
    let d : Dialect := ⟨{}, .lenient⟩
    let deleted : Fragment := ⟨"delete from GUEST as G where ROWID in (select G.ROWID from GUEST as G inner join ROOM on "
      ++ "ROOM.ID = G.ROOM where G.AGE > ? limit 5 offset 2)", [.int 17]⟩
    d.delete laterGuests = .ok deleted ∧
      d.KeepsRestrictions laterGuests "GUEST as G" (.text "delete from GUEST as G") deleted := by
  intro d deleted
  have hdeleted : d.delete laterGuests = .ok deleted := by decide +kernel
  have htarget : d.target laterGuests = .ok "GUEST as G" := by decide +kernel
  obtain ⟨table, htable, hkeeps⟩ := (keepsRestrictions_iff d laterGuests).1 deleted hdeleted
  obtain rfl : "GUEST as G" = table := Except.ok.inj (htarget.symm.trans htable)
  exact ⟨hdeleted, hkeeps.2 fun hskips => absurd hskips.1 (List.cons_ne_nil _ _)⟩

/-- Guests of which the first ones are passed over. -/
def skippedGuests : Query := { Query.empty with source := some (.name "guest"), offset := some 2 }

/-- A deletion of the guests after the first ones deletes all guests. -/
theorem exists_offset_dropped :
    let d : Dialect := ⟨{}, .lenient⟩
    let deleted := Fragment.text "delete from GUEST"
    d.delete skippedGuests = .ok deleted ∧ skippedGuests.offset ≠ none ∧
      ¬ d.KeepsRestrictions skippedGuests "GUEST" deleted deleted := by
  intro d deleted
  have htable : d.policy.table (.name "guest") = "GUEST" := by decide +kernel
  have hrestricted : d.restricted skippedGuests deleted = .ok deleted := by decide +kernel
  refine ⟨by decide +kernel, by decide, fun hkeeps => ?_⟩
  rw [← htable] at hkeeps
  have hnot := (keepsRestrictions_restricted_iff rfl (by decide) hrestricted).1 hkeeps
  exact hnot ⟨rfl, rfl, by decide⟩

end Dialect

end WarehouseSql
