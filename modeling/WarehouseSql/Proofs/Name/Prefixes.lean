import WarehouseSql.Proofs.Name.Stored

/-!
Where the table prefix stands.  A table name carries it on its last segment (`Policy.table_intercalate`), a column path
on its first one (`Policy.columnName_intercalate`).  **So a column under the dotted name of a table is written after that
table only if the prefix leaves no trace, or makes no difference where it stands** (`Policy.columnName_under_table_iff`).
-/

namespace WarehouseSql

namespace Text

/-! ### dotted names -/

lemma toList_dots_cons_cons (first second : String) (rest : List String) :
    (String.intercalate "." (first :: second :: rest)).toList =
      first.toList ++ '.' :: (String.intercalate "." (second :: rest)).toList :=
  toList_intercalate_cons_cons "." first second rest

/-- Segments without dots are told apart again. -/
lemma dotted_intercalate {segments : List String} (hne : segments ≠ [])
    (h : ∀ segment ∈ segments, ∀ c ∈ segment.toList, c ≠ '.') :
    dotted (String.intercalate "." segments) = segments := by
  induction segments with
  | nil => exact absurd rfl hne
  | cons first rest ih =>
    obtain ⟨hfirst, hrest⟩ := List.forall_mem_cons.1 h
    cases rest with
    | nil => rw [String.intercalate_singleton, dotted_of_not_dot hfirst]
    | cons second rest =>
      have ih := ih (List.cons_ne_nil _ _) hrest
      rw [dotted] at ih ⊢
      rw [toList_dots_cons_cons, splitOnChar_append hfirst, List.map_cons, ih, String.ofList_toList]

lemma upper_intercalate (segments : List String) :
    upper (String.intercalate "." segments) = String.intercalate "." (segments.map upper) := by
  induction segments with
  | nil => rfl
  | cons first rest ih =>
    cases rest with
    | nil => simp
    | cons second rest =>
      have hdot : upper "." = "." := by decide
      rw [String.intercalate_cons_cons, upper_append, upper_append, ih, hdot]
      exact String.intercalate_cons_cons.symm

/-- All segments but the last come with a dot behind. -/
lemma intercalate_concat (leading : List String) (last : String) :
    String.intercalate "." (leading ++ [last]) = String.join (leading.map (· ++ ".")) ++ last := by
  induction leading with
  | nil => simp
  | cons first leading ih =>
    rw [List.cons_append, String.intercalate_cons_of_ne_nil (by simp), ih, List.map_cons, String.join_cons]
    simp only [String.append_assoc]

/-- What stands before the first dot is told apart. -/
lemma eq_of_append_dot {a b c d : String} (ha : '.' ∉ a.toList) (hb : '.' ∉ b.toList)
    (h : a ++ "." ++ c = b ++ "." ++ d) : a = b := by
  have hchars : ∀ s t : String, (s ++ "." ++ t).toList = s.toList ++ '.' :: t.toList := by simp
  have hne : ∀ {s : String}, '.' ∉ s.toList → ∀ char ∈ s.toList, char ≠ '.' := fun hs _ hmem heq => hs (heq ▸ hmem)
  have hsplit : splitOnChar '.' (a ++ "." ++ c).toList = splitOnChar '.' (b ++ "." ++ d).toList := by rw [h]
  rw [hchars, hchars, splitOnChar_append (hne ha), splitOnChar_append (hne hb), List.cons.injEq] at hsplit
  exact String.toList_inj.1 hsplit.1

end Text

/-! ### plain segments -/

section Plain

variable {segments : List String}

lemma not_asciiBlank_intercalate (h : ∀ segment ∈ segments, IsPlainName segment) :
    ∀ c ∈ (String.intercalate "." segments).toList, Text.isAsciiBlank c = false := by
  refine Fragment.intercalate_induction (P := fun text => ∀ c ∈ text.toList, Text.isAsciiBlank c = false) (by simp)
    (fun ha hb c hc => ?_) (fun c hc => ?_) fun segment hsegment => (h segment hsegment).not_asciiBlank
  · rw [String.toList_append, List.mem_append] at hc
    exact hc.elim (ha c) (hb c)
  · rw [List.mem_singleton.1 hc]
    rfl

/-- No arrow comes about across a dot. -/
lemma not_arrow_intercalate (h : ∀ segment ∈ segments, IsPlainName segment) :
    Text.cutAtArrow (String.intercalate "." segments).toList = none := by
  induction segments with
  | nil => rfl
  | cons first rest ih =>
    obtain ⟨hfirst, hrest⟩ := List.forall_mem_cons.1 h
    cases rest with
    | nil =>
      rw [String.intercalate_singleton]
      exact hfirst.not_arrow
    | cons second rest =>
      rw [Text.toList_dots_cons_cons]
      exact Text.cutAtArrow_append hfirst.not_arrow (Text.cutAtArrow_cons_eq_none.2 ⟨by simp, ih hrest⟩) (by simp)

end Plain

namespace Policy

variable {policy : Policy} {first last column : String} {leading rest : List String}

/-! ### where the prefix stands -/

lemma folded_intercalate (segments : List String) :
    policy.folded (String.intercalate "." segments) = String.intercalate "." (segments.map policy.folded) := by
  cases hcase : policy.caseSensitive with
  | true =>
    have hsame : policy.folded = id := funext fun name => by rw [folded, if_pos hcase]; rfl
    rw [hsame, List.map_id]
    rfl
  | false =>
    have hupper : policy.folded = Text.upper := funext fun name => by rw [folded, if_neg (by simp [hcase])]
    rw [hupper, Text.upper_intercalate]

/-- An identifier does not tell whether its name was folded before. -/
lemma identifier_folded (name : String) : policy.identifier (policy.folded name) = policy.identifier name := by
  simpa using @identifier_append_folded policy "" name

/-- **A table carries the prefix on its last segment.** -/
theorem table_intercalate (policy : Policy) (hleading : ∀ segment ∈ leading, IsPlainName segment)
    (hlast : IsPlainName last) :
    policy.table (.name (String.intercalate "." (leading ++ [last]))) =
      String.intercalate "." (leading.map policy.identifier ++ [policy.identifier (policy.tablePrefix ++ last)]) := by
  have hplain : ∀ segment ∈ leading ++ [last], IsPlainName segment :=
    List.forall_mem_append.2 ⟨hleading, List.forall_mem_singleton.2 hlast⟩
  have hnone := Text.splitAlias?_eq_none (not_asciiBlank_intercalate hplain)
  have hsegments : Text.dotted (policy.folded (String.intercalate "." (leading ++ [last]))) =
      leading.map policy.folded ++ [policy.folded last] := by
    rw [folded_intercalate, Text.dotted_intercalate (by simp), List.map_append, List.map_singleton]
    intro segment hsegment
    obtain ⟨name, hname, rfl⟩ := List.mem_map.1 hsegment
    exact not_dot_folded (hplain name hname).not_dot
  have hfolded : (leading.map policy.folded).map policy.identifier = leading.map policy.identifier := by
    rw [List.map_map]
    exact List.map_congr_left fun name _ => identifier_folded name
  rw [table, tableWithPrefix_of_none hnone, dottedTable, ← folded, hsegments, List.dropLast_concat,
    List.getLastD_concat, hfolded, identifier_append_folded]

lemma path_cons (hrest : rest ≠ []) :
    policy.path (first :: rest) =
      String.intercalate "." (policy.tableWithPrefix policy.tablePrefix first :: rest.map policy.identifier) := by
  obtain ⟨second, rest, rfl⟩ := List.exists_cons_of_ne_nil hrest
  rfl

/-- **A column path carries the prefix on its first segment.** -/
theorem columnName_intercalate (policy : Policy) (h : ∀ segment ∈ first :: rest, IsPlainName segment)
    (hrest : rest ≠ []) :
    policy.columnName (String.intercalate "." (first :: rest)) =
      String.intercalate "." (policy.identifier (policy.tablePrefix ++ first) :: rest.map policy.identifier) := by
  have hdotted : Text.dotted (String.intercalate "." (first :: rest)) = first :: rest :=
    Text.dotted_intercalate (List.cons_ne_nil _ _) fun segment hsegment => (h segment hsegment).not_dot
  rw [columnName_of_none (Text.splitAlias?_eq_none (not_asciiBlank_intercalate h)), jsonSelector,
    not_arrow_intercalate h]
  dsimp only
  rw [hdotted, path_cons hrest, tableWithPrefix_of_plain (h first List.mem_cons_self)]

/-! ### columns under tables -/

/-- The prefix as identifiers show it. -/
def writtenPrefix (policy : Policy) : String :=
  if policy.caseSensitive then policy.tablePrefix else policy.identifier policy.tablePrefix

/-- The SQL of the leading segments of a table, with the dots behind them. -/
def writtenLeading (policy : Policy) (leading : List String) : String :=
  String.join ((leading.map policy.identifier).map (· ++ "."))

lemma writtenLeading_cons (first : String) (leading : List String) :
    policy.writtenLeading (first :: leading) = policy.identifier first ++ "." ++ policy.writtenLeading leading :=
  String.join_cons

lemma identifier_append (h : policy.caseSensitive = false) (a b : String) :
    policy.identifier (a ++ b) = policy.identifier a ++ policy.identifier b := by
  rw [identifier_of_not_caseSensitive h, identifier_of_not_caseSensitive h, identifier_of_not_caseSensitive h,
    Text.upper_append, String.toList_append, List.filter_append, String.ofList_append]

lemma not_dot_identifier (h : policy.caseSensitive = false) {name : String} (hdot : '.' ∉ name.toList) :
    '.' ∉ (policy.identifier name).toList := by
  rw [identifier_of_not_caseSensitive h, String.toList_ofList, List.mem_filter, Text.mem_upper_iff (by decide) (by decide)]
  exact fun hmem => hdot hmem.1

/-- A prefix shows in quoted identifiers. -/
lemma tablePrefix_eq_empty (h : policy.caseSensitive = true) (hfirst : first ≠ "") {a b : String}
    (heq : policy.identifier (policy.tablePrefix ++ first) ++ ("." ++ a) = policy.identifier first ++ ("." ++ b)) :
    policy.tablePrefix = "" := by
  by_contra hsome
  have hdot : ∀ rest : String, ("." ++ rest).toList.head? ≠ some '"' := by simp
  have hstar : policy.tablePrefix ++ first ≠ "*" := by
    intro hstar
    have hlength := congrArg String.length hstar
    have hprefixed := mt String.length_eq_zero_iff.1 hsome
    have hnamed := mt String.length_eq_zero_iff.1 hfirst
    have hone : "*".length = 1 := rfl
    rw [String.length_append] at hlength
    omega
  -- both texts are read up to the first dot outside of quotes; a star is not read at all
  have hread : Text.readIdentifier? (policy.identifier first ++ ("." ++ b)).toList =
      some ((policy.tablePrefix ++ first).toList, ("." ++ a).toList) := by
    rw [← heq, identifier_of_caseSensitive h hstar, String.toList_append,
      Text.readIdentifier?_quoteIdentifier _ (hdot a)]
  by_cases hname : first = "*"
  · rw [hname, identifier, if_pos rfl, String.toList_append] at hread
    cases hread
  · rw [identifier_of_caseSensitive h hname, String.toList_append,
      Text.readIdentifier?_quoteIdentifier _ (hdot b), Option.some.injEq, Prod.mk.injEq, String.toList_inj] at hread
    exact hsome (String.append_eq_right_iff.1 hread.1.symm)

/-- Where letter case is folded, a prefix without dots shows before a segment. -/
lemma identifier_tablePrefix_eq_empty (h : policy.caseSensitive = false) (hdots : '.' ∉ policy.tablePrefix.toList)
    (hfirst : '.' ∉ first.toList) {a b : String}
    (heq : policy.identifier policy.tablePrefix ++ (policy.identifier first ++ ("." ++ a)) =
      policy.identifier first ++ ("." ++ b)) :
    policy.identifier policy.tablePrefix = "" := by
  have hboth : '.' ∉ (policy.tablePrefix ++ first).toList := by
    rw [String.toList_append, List.mem_append]
    exact not_or.2 ⟨hdots, hfirst⟩
  rw [← String.append_assoc, ← identifier_append h, ← String.append_assoc, ← String.append_assoc] at heq
  have hsame := Text.eq_of_append_dot (not_dot_identifier h hboth) (not_dot_identifier h hfirst) heq
  rw [identifier_append h] at hsame
  exact String.append_eq_right_iff.1 hsame

lemma intercalate_columns (first last column : String) (middle : List String) :
    String.intercalate "." (policy.identifier first :: (middle ++ [last] ++ [column]).map policy.identifier) =
      String.intercalate "." ((first :: middle).map policy.identifier ++ [policy.identifier last]) ++ "." ++
        policy.identifier column := by
  have hlist : policy.identifier first :: (middle ++ [last] ++ [column]).map policy.identifier =
      ((first :: middle).map policy.identifier ++ [policy.identifier last]) ++ [policy.identifier column] := by simp
  rw [hlist, String.intercalate_append_of_ne_nil (by simp) (by simp), String.intercalate_singleton]

/-- In quoted identifiers the two places of the prefix are told apart. -/
lemma prefixed_eq_iff_of_caseSensitive (h : policy.caseSensitive = true) (hfirst : first ≠ "") (last column : String)
    (middle : List String) :
    String.intercalate "." (policy.identifier (policy.tablePrefix ++ first) ::
          (middle ++ [last] ++ [column]).map policy.identifier) =
        String.intercalate "." ((first :: middle).map policy.identifier ++
          [policy.identifier (policy.tablePrefix ++ last)]) ++ "." ++ policy.identifier column ↔
      policy.tablePrefix = "" := by
  constructor
  · intro heq
    rw [String.intercalate_cons_of_ne_nil (by simp), List.map_cons, List.cons_append,
      String.intercalate_cons_of_ne_nil (by simp)] at heq
    simp only [String.append_assoc] at heq
    exact tablePrefix_eq_empty h hfirst heq
  · intro hempty
    rw [hempty, String.empty_append, String.empty_append, intercalate_columns]

/-- Where letter case is folded, the two places of the prefix are the two ends of the leading segments. -/
lemma prefixed_eq_iff_of_not_caseSensitive (h : policy.caseSensitive = false) (first last column : String)
    (middle : List String) :
    String.intercalate "." (policy.identifier (policy.tablePrefix ++ first) ::
          (middle ++ [last] ++ [column]).map policy.identifier) =
        String.intercalate "." ((first :: middle).map policy.identifier ++
          [policy.identifier (policy.tablePrefix ++ last)]) ++ "." ++ policy.identifier column ↔
      policy.identifier policy.tablePrefix ++ policy.writtenLeading (first :: middle) =
        policy.writtenLeading (first :: middle) ++ policy.identifier policy.tablePrefix := by
  have hcolumn : String.intercalate "." (policy.identifier (policy.tablePrefix ++ first) ::
      (middle ++ [last] ++ [column]).map policy.identifier) =
        policy.identifier policy.tablePrefix ++ policy.writtenLeading (first :: middle) ++
          (policy.identifier last ++ "." ++ policy.identifier column) := by
    rw [identifier_append h, Text.intercalate_cons, String.append_assoc, ← Text.intercalate_cons, intercalate_columns,
      Text.intercalate_concat]
    simp only [writtenLeading, String.append_assoc]
  have htable : String.intercalate "." ((first :: middle).map policy.identifier ++
      [policy.identifier (policy.tablePrefix ++ last)]) ++ "." ++ policy.identifier column =
        policy.writtenLeading (first :: middle) ++ policy.identifier policy.tablePrefix ++
          (policy.identifier last ++ "." ++ policy.identifier column) := by
    rw [Text.intercalate_concat, identifier_append h]
    simp only [writtenLeading, String.append_assoc]
  rw [hcolumn, htable, String.append_left_inj]

/-- Where letter case is folded, a prefix that reads alike at the two ends of the leading segments has dots, or leaves no
trace. -/
lemma writtenLeading_comm_iff (h : policy.caseSensitive = false) (hfirst : '.' ∉ first.toList) (middle : List String) :
    policy.identifier policy.tablePrefix ++ policy.writtenLeading (first :: middle) =
        policy.writtenLeading (first :: middle) ++ policy.identifier policy.tablePrefix ↔
      policy.identifier policy.tablePrefix = "" ∨ ('.' ∈ policy.tablePrefix.toList ∧
        policy.identifier policy.tablePrefix ++ policy.writtenLeading (first :: middle) =
          policy.writtenLeading (first :: middle) ++ policy.identifier policy.tablePrefix) := by
  constructor
  · intro heq
    by_cases hdot : '.' ∈ policy.tablePrefix.toList
    · exact .inr ⟨hdot, heq⟩
    · left
      simp only [writtenLeading_cons, String.append_assoc] at heq
      exact identifier_tablePrefix_eq_empty h hdot hfirst heq
  · rintro (hempty | ⟨-, heq⟩)
    · rw [hempty, String.empty_append, String.append_empty]
    · exact heq

/-- **A column under the dotted name of a table carries the prefix on the first segment.**  It is written after the table
exactly if the table has one segment or the prefix makes no difference: it leaves no trace, or letter case is folded and
a prefix with dots reads alike before and after the leading segments. -/
theorem columnName_under_table_iff (htable : ∀ segment ∈ first :: rest, IsPlainName segment)
    (hcolumn : IsPlainName column) :
    policy.columnName (String.intercalate "." (first :: rest) ++ "." ++ column) =
        String.intercalate "." (policy.identifier (policy.tablePrefix ++ first) ::
          (rest ++ [column]).map policy.identifier) ∧
      (policy.columnName (String.intercalate "." (first :: rest) ++ "." ++ column) =
          policy.table (.name (String.intercalate "." (first :: rest))) ++ "." ++ policy.identifier column ↔
        rest = [] ∨ policy.writtenPrefix = "" ∨
          (policy.caseSensitive = false ∧ '.' ∈ policy.tablePrefix.toList ∧
            policy.writtenPrefix ++ policy.writtenLeading (first :: rest).dropLast =
              policy.writtenLeading (first :: rest).dropLast ++ policy.writtenPrefix)) := by
  have hpath : String.intercalate "." (first :: rest) ++ "." ++ column =
      String.intercalate "." (first :: (rest ++ [column])) := by
    rw [← List.cons_append, String.intercalate_append_of_ne_nil (by simp) (by simp), String.intercalate_singleton]
  have hplain : ∀ segment ∈ first :: (rest ++ [column]), IsPlainName segment := by
    rw [← List.cons_append]
    exact List.forall_mem_append.2 ⟨htable, List.forall_mem_singleton.2 hcolumn⟩
  have hwritten := columnName_intercalate policy hplain (by simp)
  have hfirst := htable first List.mem_cons_self
  rw [hpath]
  refine ⟨hwritten, ?_⟩
  rw [hwritten]
  rcases List.eq_nil_or_concat rest with rfl | ⟨middle, last, rfl⟩
  · -- the first segment is the last one
    have hname := table_intercalate policy (List.forall_mem_nil _) hfirst
    rw [List.nil_append] at hname
    rw [hname]
    simp
  · rw [List.concat_eq_append] at htable ⊢
    rw [← List.cons_append] at htable
    obtain ⟨hleading, hlast⟩ := List.forall_mem_append.1 htable
    have hname := table_intercalate policy hleading (hlast last List.mem_cons_self)
    rw [← List.cons_append, hname, List.dropLast_concat, or_iff_right (by simp)]
    cases hcase : policy.caseSensitive with
    | true =>
      rw [prefixed_eq_iff_of_caseSensitive hcase hfirst.ne_empty, writtenPrefix, if_pos hcase]
      simp
    | false =>
      rw [prefixed_eq_iff_of_not_caseSensitive hcase, writtenLeading_comm_iff hcase fun hdot => hfirst.not_dot _ hdot rfl,
        writtenPrefix, if_neg (by simp [hcase])]
      simp

theorem columnName_under_events :
    (∀ segment ∈ ["analytics", "events"], IsPlainName segment) ∧ (∀ segment ∈ ["users"], IsPlainName segment) ∧
      IsPlainName "id" ∧
      Policy.columnName { tablePrefix := "app_" } (String.intercalate "." ["analytics", "events"] ++ "." ++ "id") =
        "APP_ANALYTICS.EVENTS.ID" ∧
      Policy.columnName { tablePrefix := "app_" } (String.intercalate "." ["analytics", "events"] ++ "." ++ "id") ≠
        Policy.table { tablePrefix := "app_" } (.name (String.intercalate "." ["analytics", "events"])) ++ "." ++
          Policy.identifier { tablePrefix := "app_" } "id" ∧
      Policy.columnName { tablePrefix := "app_" } (String.intercalate "." ["users"] ++ "." ++ "id") =
        Policy.table { tablePrefix := "app_" } (.name (String.intercalate "." ["users"])) ++ "." ++
          Policy.identifier { tablePrefix := "app_" } "id" := by
  have hevents : ∀ segment ∈ ["analytics", "events"], IsPlainName segment := by decide
  have husers : ∀ segment ∈ ["users"], IsPlainName segment := by decide
  have hcolumn : IsPlainName "id" := by decide
  obtain ⟨hpath, hastray⟩ := @columnName_under_table_iff { tablePrefix := "app_" } _ _ _ hevents hcolumn
  refine ⟨hevents, husers, hcolumn, hpath.trans (by decide), fun hsame => ?_,
    (columnName_under_table_iff husers hcolumn).2.2 (.inl rfl)⟩
  -- two segments, a prefix that is written, and no dot in it
  rcases hastray.1 hsame with hone | hunwritten | ⟨-, hdot, -⟩
  · exact absurd hone (by decide)
  · exact absurd hunwritten (by decide)
  · exact absurd hdot (by decide)

/-- A column under `analytics.events` is written after another table than the one of that name. -/
theorem exists_column_astray :
    ¬ ∀ (policy : Policy) (first : String) (rest : List String) (column : String),
      (∀ segment ∈ first :: rest, IsPlainName segment) → IsPlainName column →
        policy.columnName (String.intercalate "." (first :: rest) ++ "." ++ column) =
          policy.table (.name (String.intercalate "." (first :: rest))) ++ "." ++ policy.identifier column := by
  intro h
  have hplain : ∀ segment ∈ ["analytics", "events", "id"], IsPlainName segment := by decide
  have htable : ∀ segment ∈ ["analytics", "events"], IsPlainName segment := by decide
  have hsame := h { caseSensitive := true, tablePrefix := "app_" } "analytics" ["events"] "id" htable (by decide)
  have hcolumn : String.intercalate "." ["analytics", "events"] ++ "." ++ "id" =
      String.intercalate "." ["analytics", "events", "id"] := by decide
  have hleading : ∀ segment ∈ ["analytics"], IsPlainName segment := by decide
  have hname := table_intercalate { caseSensitive := true, tablePrefix := "app_" } hleading
    (show IsPlainName "events" by decide)
  rw [hcolumn, columnName_intercalate _ hplain (by decide)] at hsame
  exact absurd (hsame.trans (congrArg (· ++ "." ++ _) hname)) (by decide +kernel)

end Policy

end WarehouseSql
