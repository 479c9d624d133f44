import WarehouseSql.Proofs.Name.Prefixes
import WarehouseSql.Schema.Catalog

/-!
Lists of names to be dropped.  Under a case-sensitive policy a bare name is written as one quoted identifier.  Any other
name is written with an alias, as a path or as a lookup in JSON, and **a list with such a name is no list of identifiers
at all** (`SchemaDialect.readIdentifiers?_nameList`).  So **exactly the listed tables and views are dropped if and only if
all names are bare** (`SchemaDialect.dropsListed_iff`).
-/

namespace WarehouseSql

/-- A name that is not taken apart: without alias, arrow and dot. -/
def IsBareName (name : String) : Prop :=
  Name.splitAlias? name = none ∧ Text.cutAtArrow name.toList = none ∧ '.' ∉ name.toList

instance : DecidablePred IsBareName := fun _ => inferInstanceAs (Decidable (_ ∧ _ ∧ _))

namespace Text

/-! ### identifiers that are followed by more -/

/-- Whether a dot or a blank follows, where a text begins with a quoted identifier. -/
def GoesOn (cs : List Char) : Prop :=
  ∀ name rest, readIdentifier? cs = some (name, rest) → rest.head? = some '.' ∨ rest.head? = some ' '

/-- A text that goes on after an identifier is no list of identifiers. -/
lemma readIdentifiers?_of_goesOn {cs : List Char} (h : GoesOn cs) : readIdentifiers? cs = none := by
  rw [readIdentifiers?]
  split
  · next name hread => simpa using h _ _ hread
  · next name rest hread => simpa using h _ _ hread
  · rfl

lemma goesOn_of_head? {cs : List Char} (h : cs.head? ≠ some '"') : GoesOn cs := by
  intro name rest hread
  obtain ⟨rfl, -⟩ := readIdentifier?_eq_some_iff.1 hread
  exact absurd (by simp [quoteIdentifier]) h

/-- Whether a text goes on after an identifier as soon as a dot or a blank follows. -/
def IsPathHead (s : String) : Prop :=
  ∀ (sign : Char) (rest : List Char), sign = '.' ∨ sign = ' ' → GoesOn (s.toList ++ sign :: rest)

namespace IsPathHead

variable {s : String}

lemma goesOn_dot (h : IsPathHead s) (second : String) (others : List String) (rest : List Char) :
    GoesOn ((String.intercalate "." (s :: second :: others)).toList ++ rest) := by
  rw [toList_dots_cons_cons, List.append_assoc, List.cons_append]
  exact h '.' _ (.inl rfl)

lemma goesOn_alias (h : IsPathHead s) (label : String) (rest : List Char) :
    GoesOn ((s ++ " as " ++ label).toList ++ rest) := by
  have hchars : (s ++ " as " ++ label).toList ++ rest = s.toList ++ ' ' :: ('a' :: 's' :: ' ' :: (label.toList ++ rest)) := by
    simp
  rw [hchars]
  exact h ' ' _ (.inr rfl)

lemma intercalate (h : IsPathHead s) (others : List String) : IsPathHead (String.intercalate "." (s :: others)) := by
  intro sign rest hsign
  cases others with
  | nil =>
    rw [String.intercalate_singleton]
    exact h sign rest hsign
  | cons second others => exact h.goesOn_dot second others _

lemma labelled (h : IsPathHead s) (label : String) : IsPathHead (s ++ " as " ++ label) := fun sign rest _ =>
  h.goesOn_alias label (sign :: rest)

end IsPathHead

end Text

namespace Policy

variable {policy : Policy} {tablePrefix name : String}

/-! ### names as lists read them -/

lemma isPathHead_identifier (h : policy.caseSensitive = true) (name : String) :
    Text.IsPathHead (policy.identifier name) := by
  intro sign rest hsign
  by_cases hstar : name = "*"
  · rw [hstar, identifier, if_pos rfl]
    exact Text.goesOn_of_head? (by simp)
  · have hquote : (sign :: rest).head? ≠ some '"' := by rcases hsign with rfl | rfl <;> simp
    intro read after hread
    rw [identifier_of_caseSensitive h hstar, Text.readIdentifier?_quoteIdentifier _ hquote, Option.some.injEq,
      Prod.mk.injEq] at hread
    rw [← hread.2, List.head?_cons, Option.some.injEq, Option.some.injEq]
    exact hsign

lemma isPathHead_dots (h : policy.caseSensitive = true) {names : List String} (hne : names ≠ []) :
    Text.IsPathHead (String.intercalate "." (names.map policy.identifier)) := by
  obtain ⟨first, rest, rfl⟩ := List.exists_cons_of_ne_nil hne
  exact (isPathHead_identifier h first).intercalate (rest.map policy.identifier)

lemma isPathHead_tableWithPrefix (h : policy.caseSensitive = true) (tablePrefix name : String) :
    Text.IsPathHead (policy.tableWithPrefix tablePrefix name) := by
  fun_induction policy.tableWithPrefix tablePrefix name with
  | case1 name table label halias ih => exact ih.labelled _
  | case2 name halias =>
    rw [dottedTable, ← List.map_singleton, ← List.map_append]
    exact isPathHead_dots h (by simp)

lemma isPathHead_path (h : policy.caseSensitive = true) {segments : List String} (hne : segments ≠ []) :
    Text.IsPathHead (policy.path segments) := by
  rw [path.eq_def]
  split
  · exact (isPathHead_tableWithPrefix h _ _).intercalate _
  · exact isPathHead_dots h hne

lemma goesOn_jsonSelector (harrow : Text.cutAtArrow name.toList ≠ none) (rest : List Char) :
    Text.GoesOn ((policy.jsonSelector name).toList ++ rest) := by
  refine Text.goesOn_of_head? ?_
  rw [jsonSelector]
  split
  · next hnone => exact absurd hnone harrow
  · simp

lemma isPathHead_columnName (h : policy.caseSensitive = true) (name : String) :
    Text.IsPathHead (policy.columnName name) := by
  fun_induction policy.columnName name with
  | case1 name column label halias ih => exact ih.labelled _
  | case2 name halias =>
    by_cases harrow : Text.cutAtArrow name.toList = none
    · rw [jsonSelector, harrow]
      exact isPathHead_path h (Text.dotted_ne_nil name)
    · exact fun sign rest _ => goesOn_jsonSelector harrow (sign :: rest)

lemma columnName_of_bare (h : policy.caseSensitive = true) (hstar : name ≠ "*") (hbare : IsBareName name) :
    policy.columnName name = Text.quoteIdentifier name := by
  obtain ⟨halias, harrow, hdot⟩ := hbare
  rw [columnName_of_not_dot halias harrow fun _ hc heq => hdot (heq ▸ hc), identifier_of_caseSensitive h hstar]

/-- A name with dots has several segments. -/
lemma exists_dotted_of_mem (h : '.' ∈ name.toList) :
    ∃ first second others, Text.dotted name = first :: second :: others := by
  obtain ⟨before, after, hname, hbefore⟩ := List.eq_append_cons_of_mem h
  have hne : ∀ c ∈ before, c ≠ '.' := fun c hc heq => hbefore (heq ▸ hc)
  rw [Text.dotted, hname, Text.splitOnChar_append hne]
  obtain ⟨second, others, hafter⟩ := List.exists_cons_of_ne_nil (Text.splitOnChar_ne_nil '.' after)
  exact ⟨_, _, _, by rw [hafter]; rfl⟩

/-- A name that is not bare goes on after its first identifier, or does not begin with one. -/
theorem goesOn_columnName (h : policy.caseSensitive = true) (hbare : ¬IsBareName name) (rest : List Char) :
    Text.GoesOn ((policy.columnName name).toList ++ rest) := by
  fun_cases policy.columnName name with
  | case1 column label halias => exact (isPathHead_columnName h column).goesOn_alias _ rest
  | case2 halias =>
    by_cases harrow : Text.cutAtArrow name.toList = none
    · have hdot : '.' ∈ name.toList := by
        by_contra hdot
        exact hbare ⟨halias, harrow, hdot⟩
      obtain ⟨first, second, others, hdotted⟩ := exists_dotted_of_mem hdot
      rw [jsonSelector, harrow]
      dsimp only
      rw [hdotted]
      exact (isPathHead_tableWithPrefix h _ _).goesOn_dot _ _ rest
    · exact goesOn_jsonSelector harrow rest

end Policy

namespace SchemaDialect

variable {d : SchemaDialect} {names : List String}

/-! ### lists -/

lemma nameList_cons_cons (first second : String) (rest : List String) :
    (d.nameList (first :: second :: rest)).toList =
      (d.policy.columnName first).toList ++ ',' :: (d.nameList (second :: rest)).toList :=
  Text.toList_intercalate_cons_cons "," _ _ _

/-- **A list of names is read as these names if they are all bare, and otherwise not at all.** -/
theorem readIdentifiers?_nameList (h : d.policy.caseSensitive = true) (hne : names ≠ [])
    (hstar : ∀ name ∈ names, name ≠ "*") :
    Text.readIdentifiers? (d.nameList names).toList = if ∀ name ∈ names, IsBareName name then some names else none := by
  obtain ⟨first, rest, rfl⟩ := List.exists_cons_of_ne_nil hne
  clear hne
  induction rest generalizing first with
  | nil =>
    have hfirst : first ≠ "*" := hstar first List.mem_cons_self
    rw [nameList, List.map_singleton, String.intercalate_singleton]
    by_cases hbare : IsBareName first
    · have hread := Text.readIdentifier?_quoteIdentifier_self first
      rw [Policy.columnName_of_bare h hfirst hbare, Text.readIdentifiers?_last hread, String.ofList_toList]
      simp [hbare]
    · have hgoes := Policy.goesOn_columnName h hbare []
      rw [List.append_nil] at hgoes
      rw [Text.readIdentifiers?_of_goesOn hgoes]
      simp [hbare]
  | cons second rest ih =>
    obtain ⟨hfirst, hrest⟩ := List.forall_mem_cons.1 hstar
    rw [nameList_cons_cons]
    by_cases hbare : IsBareName first
    · -- the comma ends the first identifier, and the rest is read on its own
      have hcomma : (',' :: (d.nameList (second :: rest)).toList).head? ≠ some '"' := by simp
      have hread := Text.readIdentifier?_quoteIdentifier first hcomma
      have hall : (∀ name ∈ first :: second :: rest, IsBareName name) ↔ ∀ name ∈ second :: rest, IsBareName name := by
        rw [List.forall_mem_cons, and_iff_right hbare]
      rw [Policy.columnName_of_bare h hfirst hbare, Text.readIdentifiers?_more hread, ih second hrest,
        String.ofList_toList, if_congr hall rfl rfl]
      split_ifs <;> rfl
    · rw [Text.readIdentifiers?_of_goesOn (Policy.goesOn_columnName h hbare _)]
      simp [hbare]

/-- **The listed tables and views are dropped, and no others, exactly if all names are bare.** -/
theorem dropsListed_iff (h : d.policy.caseSensitive = true) (hne : names ≠ []) (hstar : ∀ name ∈ names, name ≠ "*") :
    ((∃ list : String, d.dropTables names = "drop table " ++ list ∧ Text.readIdentifiers? list.toList = some names) ∧
        ∃ list : String, d.dropViews names = "drop view " ++ list ∧ Text.readIdentifiers? list.toList = some names) ↔
      ∀ name ∈ names, IsBareName name := by
  have hread := readIdentifiers?_nameList h hne hstar
  constructor
  · rintro ⟨⟨list, hlist, hnames⟩, -⟩
    have hsame : d.nameList names = list := (String.append_right_inj _).1 hlist
    rw [← hsame, hread] at hnames
    by_contra hbare
    rw [if_neg hbare] at hnames
    cases hnames
  · intro hbare
    rw [if_pos hbare] at hread
    exact ⟨⟨d.nameList names, rfl, hread⟩, d.nameList names, rfl, hread⟩

/-- A case-sensitive dialect with a prefix. -/
def app : SchemaDialect := { policy := ⟨true, "app_"⟩, strictness := .lenient, defaults := {} }

theorem dropsListed_users :
    (∀ name ∈ ["app_users", "say \"hi\""], name ≠ "*") ∧
      ∃ list : String, app.dropTables ["app_users", "say \"hi\""] = "drop table " ++ list ∧
        Text.readIdentifiers? list.toList = some ["app_users", "say \"hi\""] := by
  have hstar : ∀ name ∈ ["app_users", "say \"hi\""], name ≠ "*" := by decide
  have hbare : ∀ name ∈ ["app_users", "say \"hi\""], IsBareName name := by decide
  exact ⟨hstar, ((dropsListed_iff (d := app) rfl (List.cons_ne_nil _ _) hstar).2 hbare).1⟩

/-- A table with a dot in its name: another one is dropped. -/
theorem exists_drop_astray :
    app.policy.caseSensitive = true ∧ (∀ name ∈ ["a.b"], name ≠ "*") ∧
      app.dropTables ["a.b"] = "drop table \"app_a\".\"b\"" ∧
      ¬ ∃ list : String, app.dropTables ["a.b"] = "drop table " ++ list ∧
        Text.readIdentifiers? list.toList = some ["a.b"] := by
  have hstar : ∀ name ∈ ["a.b"], name ≠ "*" := by decide
  have hplain : ∀ segment ∈ ["a", "b"], IsPlainName segment := by decide
  refine ⟨rfl, hstar, ?_, ?_⟩
  · have hcolumn := Policy.columnName_intercalate app.policy hplain (by decide)
    have hname : String.intercalate "." ["a", "b"] = "a.b" := by decide
    rw [hname] at hcolumn
    rw [dropTables, nameList, List.map_singleton, String.intercalate_singleton, hcolumn]
    decide +kernel
  · rintro ⟨list, hlist, hnames⟩
    have hsame : app.nameList ["a.b"] = list := (String.append_right_inj _).1 hlist
    rw [← hsame, readIdentifiers?_nameList rfl (List.cons_ne_nil _ _) hstar] at hnames
    exact absurd hnames (by decide)

end SchemaDialect

end WarehouseSql
