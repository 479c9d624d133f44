import WarehouseSql.Proofs.Name.Spelling
import WarehouseSql.Proofs.Text.Upper
import WarehouseSql.Query.Change

/-!
Tables and the columns that are qualified by them.  A table is written as dotted identifiers and labels after ` as `
(`Policy.tableText`); the last of these is what it introduces.  **A column that is qualified by the plain alias of a
table, or by its plain last segment, is written after the identifier that the table introduces**
(`Policy.columnName_qualified`), whatever the prefix, and in ASCII whatever the case policy.
-/

namespace WarehouseSql

/-! ### tables in SQL -/

/-- A table in SQL: dotted identifiers, and labels that are given to it one after another. -/
structure TableText where
  identifiers : List String
  labels : List String

namespace TableText

def sql (t : TableText) : String :=
  t.labels.foldl (fun sofar label => sofar ++ " as " ++ label) (String.intercalate "." t.identifiers)

/-- The identifier that a table introduces: the one after its last ` as `, else the last of its dotted identifiers. -/
def introduced (t : TableText) : String := t.labels.getLastD (t.identifiers.getLastD "")

end TableText

/-- A name in the letter case that tables are written in. -/
def Policy.folded (policy : Policy) (name : String) : String := if policy.caseSensitive then name else Text.upper name

/-- The identifiers and labels of a table name. -/
def Policy.tableText (policy : Policy) (tablePrefix name : String) : TableText :=
  match _h : Name.splitAlias? name with
  | some (table, label) =>
    let text := policy.tableText tablePrefix table
    { text with labels := text.labels ++ [policy.identifier (tablePrefix ++ label)] }
  | none =>
    let segments := Text.dotted (policy.folded name)
    { identifiers := (segments.dropLast ++ [tablePrefix ++ segments.getLastD ""]).map policy.identifier, labels := [] }
termination_by name.length
decreasing_by exact Name.length_left_of_splitAlias? _h

namespace Policy

variable {policy : Policy} {tablePrefix name : String}

lemma tableWithPrefix_of_alias {table label : String} (h : Name.splitAlias? name = some (table, label)) :
    policy.tableWithPrefix tablePrefix name =
      policy.tableWithPrefix tablePrefix table ++ " as " ++ policy.identifier (tablePrefix ++ label) := by
  rw [tableWithPrefix]
  split
  · next heq =>
    rw [h] at heq
    cases heq
    rfl
  · next heq => simp [h] at heq

lemma tableWithPrefix_of_none (h : Name.splitAlias? name = none) :
    policy.tableWithPrefix tablePrefix name = policy.dottedTable tablePrefix name := by
  rw [tableWithPrefix]
  split
  · next heq => simp [h] at heq
  · rfl

lemma columnName_of_none (h : Name.splitAlias? name = none) : policy.columnName name = policy.jsonSelector name := by
  rw [columnName]
  split
  · next heq => simp [h] at heq
  · rfl

/-- **A table is written as its identifiers and labels.** -/
theorem sql_tableText (policy : Policy) (tablePrefix name : String) :
    (policy.tableText tablePrefix name).sql = policy.tableWithPrefix tablePrefix name := by
  fun_induction policy.tableText tablePrefix name with
  | case1 name table label halias text ih =>
    rw [tableWithPrefix_of_alias halias, ← ih, TableText.sql, List.foldl_append]
    rfl
  | case2 name halias segments =>
    rw [tableWithPrefix_of_none halias, TableText.sql, List.map_append, List.map_singleton]
    rfl

lemma introduced_of_alias {table label : String} (h : Name.splitAlias? name = some (table, label)) :
    (policy.tableText tablePrefix name).introduced = policy.identifier (tablePrefix ++ label) := by
  rw [tableText]
  split
  · next heq =>
    rw [h] at heq
    cases heq
    exact List.getLastD_concat
  · next heq => simp [h] at heq

lemma introduced_of_none (h : Name.splitAlias? name = none) :
    (policy.tableText tablePrefix name).introduced =
      policy.identifier (tablePrefix ++ (Text.dotted (policy.folded name)).getLastD "") := by
  rw [tableText]
  split
  · next heq => simp [h] at heq
  · dsimp only [TableText.introduced, List.getLastD_nil]
    rw [List.map_append]
    exact List.getLastD_concat

end Policy

/-! ### plain names -/

/-- A name that stands for itself: not empty, without white space, dots and arrows. -/
structure IsPlainName (name : String) : Prop where
  ne_empty : name ≠ ""
  not_blank : ∀ c ∈ name.toList, Text.isBlank c = false
  not_dot : ∀ c ∈ name.toList, c ≠ '.'
  not_arrow : Text.cutAtArrow name.toList = none

instance : DecidablePred IsPlainName := fun name =>
  decidable_of_iff (name ≠ "" ∧ (name.toList.all fun c => !Text.isBlank c && c != '.') = true ∧
      Text.cutAtArrow name.toList = none) <| by
    simp only [List.all_eq_true, Bool.and_eq_true, Bool.not_eq_true', bne_iff_ne]
    constructor
    · rintro ⟨hempty, hchars, harrow⟩
      exact ⟨hempty, fun c hc => (hchars c hc).1, fun c hc => (hchars c hc).2, harrow⟩
    · rintro ⟨hempty, hblank, hdot, harrow⟩
      exact ⟨hempty, fun c hc => ⟨hblank c hc, hdot c hc⟩, harrow⟩

lemma IsPlainName.not_asciiBlank {name : String} (h : IsPlainName name) :
    ∀ c ∈ name.toList, Text.isAsciiBlank c = false := fun c hc =>
  Bool.eq_false_iff.2 fun hblank =>
    Bool.false_ne_true ((h.not_blank c hc).symm.trans (Text.isBlank_of_isAsciiBlank hblank))

/-- The name by which the rows of a table are meant: its alias, else its last dotted segment. -/
def Name.lastGiven (source : String) : String :=
  match Name.splitAlias? source with
  | some (_, label) => label
  | none => Dialect.lastSegment source

namespace Text

lemma cutAtKeyword_eq_none {cs : List Char} (h : ∀ c ∈ cs, isAsciiBlank c = false) : Name.cutAtKeyword cs = none := by
  induction cs with
  | nil => rfl
  | cons c cs ih =>
    obtain ⟨hc, hcs⟩ := List.forall_mem_cons.1 h
    rw [Name.cutAtKeyword.eq_def]
    simp only [ih hcs, hc, Bool.false_and, Bool.false_eq_true, if_false]
    split <;> rfl

lemma splitAlias?_eq_none {name : String} (h : ∀ c ∈ name.toList, isAsciiBlank c = false) :
    Name.splitAlias? name = none := by
  rw [Name.splitAlias?, Name.splitAliasChars?, cutAtKeyword_eq_none h]
  rfl

lemma cutAtArrow_cons_eq_none {c : Char} {cs : List Char} :
    cutAtArrow (c :: cs) = none ↔ (c = '-' → cs.head? ≠ some '>') ∧ cutAtArrow cs = none := by
  rw [cutAtArrow.eq_def]
  split
  · next heq => cases heq
  · next heq =>
    cases heq
    simp
  · next d ds hne heq =>
    cases heq
    rw [Option.map_eq_none_iff, and_iff_right_of_imp]
    rintro - rfl hhead
    obtain ⟨rest, rfl⟩ := List.head?_eq_some_iff.1 hhead
    exact hne rest rfl rfl

/-- No arrow comes about where a text follows that begins with neither half of one. -/
lemma cutAtArrow_append {as bs : List Char} (ha : cutAtArrow as = none) (hb : cutAtArrow bs = none)
    (hhead : bs.head? ≠ some '>') : cutAtArrow (as ++ bs) = none := by
  induction as with
  | nil => exact hb
  | cons a as ih =>
    obtain ⟨hfirst, hrest⟩ := cutAtArrow_cons_eq_none.1 ha
    refine cutAtArrow_cons_eq_none.2 ⟨fun hdash => ?_, ih hrest⟩
    cases as with
    | nil => exact hhead
    | cons d as => exact hfirst hdash

lemma splitOnChar_append {sep : Char} {as : List Char} (h : ∀ c ∈ as, c ≠ sep) (bs : List Char) :
    splitOnChar sep (as ++ sep :: bs) = as :: splitOnChar sep bs := by
  induction as with
  | nil => rw [List.nil_append, splitOnChar, if_pos rfl]
  | cons c as ih =>
    obtain ⟨hc, has⟩ := List.forall_mem_cons.1 h
    rw [List.cons_append, splitOnChar, if_neg hc, ih has]

lemma splitOnChar_of_forall_ne {sep : Char} {cs : List Char} (h : ∀ c ∈ cs, c ≠ sep) : splitOnChar sep cs = [cs] := by
  induction cs with
  | nil => rfl
  | cons c cs ih =>
    obtain ⟨hc, hcs⟩ := List.forall_mem_cons.1 h
    rw [splitOnChar, if_neg hc, ih hcs]

lemma dotted_of_not_dot {s : String} (h : ∀ c ∈ s.toList, c ≠ '.') : dotted s = [s] := by
  rw [dotted, splitOnChar_of_forall_ne h, List.map_singleton, String.ofList_toList]

lemma trimEndChars_of_not_blank {cs : List Char} (h : ∀ c ∈ cs, isBlank c = false) : trimEndChars cs = cs := by
  induction cs with
  | nil => rfl
  | cons c cs ih =>
    obtain ⟨hc, hcs⟩ := List.forall_mem_cons.1 h
    rw [trimEndChars, ih hcs]
    cases cs with
    | nil => simp [hc]
    | cons d cs => rfl

lemma trim_of_not_blank {s : String} (h : ∀ c ∈ s.toList, isBlank c = false) : trim s = s := by
  have hstart : trimStartChars s.toList = s.toList := by
    cases hs : s.toList with
    | nil => rfl
    | cons c cs =>
      rw [hs] at h
      rw [trimStartChars, List.dropWhile_cons_of_neg (by simp [h c List.mem_cons_self])]
  rw [trim, trimChars, hstart, trimEndChars_of_not_blank h, String.ofList_toList]

/-! ### upper case in ASCII -/

def IsAscii (s : String) : Prop := ∀ c ∈ s.toList, c.toNat < 128

instance : DecidablePred IsAscii := fun s => List.decidableBAll (fun c : Char => c.toNat < 128) s.toList

lemma upperChar_eq {c : Char} (h : c.toNat < 128) : upperChar c = [c.toUpper] ∧ (c.toUpper = '.' ↔ c = '.') :=
  forall_ascii (P := fun c => upperChar c = [c.toUpper] ∧ (c.toUpper = '.' ↔ c = '.')) (by decide) h

lemma toList_upper {s : String} (h : IsAscii s) : (upper s).toList = s.toList.map Char.toUpper := by
  rw [upper, String.toList_ofList, List.map_eq_flatMap]
  exact List.flatMap_congr fun c hc => (upperChar_eq (h c hc)).1

lemma splitOnChar_map {sep : Char} {f : Char → Char} {cs : List Char} (h : ∀ c ∈ cs, f c = sep ↔ c = sep) :
    splitOnChar sep (cs.map f) = (splitOnChar sep cs).map (List.map f) := by
  induction cs with
  | nil => rfl
  | cons c cs ih =>
    obtain ⟨hc, hcs⟩ := List.forall_mem_cons.1 h
    rw [List.map_cons, splitOnChar, splitOnChar, ih hcs]
    simp only [hc]
    split_ifs
    · rfl
    · cases splitOnChar sep cs <;> rfl

lemma dotted_upper {s : String} (h : IsAscii s) : dotted (upper s) = (dotted s).map upper := by
  have hascii : ∀ piece ∈ splitOnChar '.' s.toList, IsAscii (String.ofList piece) := by
    intro piece hpiece c hc
    rw [String.toList_ofList] at hc
    exact h c (mem_of_mem_splitOnChar hpiece c hc)
  rw [dotted, dotted, toList_upper h, splitOnChar_map fun c hc => (upperChar_eq (h c hc)).2, List.map_map,
    List.map_map]
  refine List.map_congr_left fun piece hpiece => String.toList_inj.1 ?_
  rw [Function.comp_apply, Function.comp_apply, toList_upper (hascii piece hpiece), String.toList_ofList,
    String.toList_ofList]

end Text

/-! ### columns under a plain name -/

namespace Policy

variable {policy : Policy} {tablePrefix : String}

/-- Whether the policy writes a name alike before and after it is folded. -/
def FoldsOnce (policy : Policy) (name : String) : Prop := policy.caseSensitive = true ∨ Text.IsAscii name

lemma identifier_of_not_caseSensitive (h : policy.caseSensitive = false) (name : String) :
    policy.identifier name = String.ofList ((Text.upper name).toList.filter (· != '"')) := by
  rw [identifier, if_neg (show ¬policy.caseSensitive = true by simp [h])]
  split_ifs with hstar
  · rw [hstar]
    rfl
  · rfl

/-- An identifier does not tell whether the end of its name was folded before. -/
lemma identifier_append_folded (name : String) :
    policy.identifier (tablePrefix ++ policy.folded name) = policy.identifier (tablePrefix ++ name) := by
  rw [folded]
  split_ifs with hcase
  · rfl
  · have hinsensitive : policy.caseSensitive = false := Bool.eq_false_iff.2 hcase
    rw [identifier_of_not_caseSensitive hinsensitive, identifier_of_not_caseSensitive hinsensitive, Text.upper_append,
      Text.upper_append, Text.upper_upper]

lemma getLastD_dotted_folded {name : String} (h : policy.FoldsOnce name) :
    (Text.dotted (policy.folded name)).getLastD "" = policy.folded (Dialect.lastSegment name) := by
  have hlast : Dialect.lastSegment name = (Text.dotted name).getLast (Text.dotted_ne_nil name) := by
    rw [Dialect.lastSegment, List.getLastD_eq_getLast?, List.getLast?_eq_some_getLast, Option.getD_some]
  rw [hlast, List.getLastD_eq_getLast?, folded, folded]
  split_ifs with hcase
  · rw [List.getLast?_eq_some_getLast, Option.getD_some]
  · rw [Text.dotted_upper (h.resolve_left hcase), List.getLast?_map, List.getLast?_eq_some_getLast]
    rfl

/-- **A table introduces its alias, else its last segment**, with the prefix in front. -/
theorem introduced_tableText {source : String} (h : policy.FoldsOnce source) :
    (policy.tableText tablePrefix source).introduced = policy.identifier (tablePrefix ++ Name.lastGiven source) := by
  rw [Name.lastGiven]
  cases halias : Name.splitAlias? source with
  | some parts => exact introduced_of_alias halias
  | none =>
    rw [introduced_of_none halias, getLastD_dotted_folded h]
    exact identifier_append_folded _

lemma not_dot_folded {name : String} (h : ∀ c ∈ name.toList, c ≠ '.') : ∀ c ∈ (policy.folded name).toList, c ≠ '.' := by
  rw [folded]
  split_ifs
  · exact h
  · rintro _ hc rfl
    exact h '.' ((Text.mem_upper_iff (by decide) (by decide)).1 hc) rfl

lemma tableWithPrefix_of_not_dot {name : String} (halias : Name.splitAlias? name = none)
    (hdot : ∀ c ∈ name.toList, c ≠ '.') :
    policy.tableWithPrefix tablePrefix name = policy.identifier (tablePrefix ++ name) := by
  have hsegments : Text.dotted (policy.folded name) = [policy.folded name] :=
    Text.dotted_of_not_dot (not_dot_folded hdot)
  have htable : policy.dottedTable tablePrefix name = policy.identifier (tablePrefix ++ policy.folded name) := by
    simp only [dottedTable]
    rw [← folded, hsegments]
    rfl
  rw [tableWithPrefix_of_none halias, htable, identifier_append_folded]

lemma tableWithPrefix_of_plain {label : String} (hlabel : IsPlainName label) :
    policy.tableWithPrefix tablePrefix label = policy.identifier (tablePrefix ++ label) :=
  tableWithPrefix_of_not_dot (Text.splitAlias?_eq_none hlabel.not_asciiBlank) hlabel.not_dot

/-- A column without dots is written in one piece. -/
lemma columnName_of_not_dot {column : String} (halias : Name.splitAlias? column = none)
    (harrow : Text.cutAtArrow column.toList = none) (hdot : ∀ c ∈ column.toList, c ≠ '.') :
    policy.columnName column = policy.identifier column := by
  rw [columnName_of_none halias, jsonSelector, harrow, Text.dotted_of_not_dot hdot]
  simp [path]

lemma columnName_of_plain {column : String} (h : IsPlainName column) :
    policy.columnName column = policy.identifier column :=
  columnName_of_not_dot (Text.splitAlias?_eq_none h.not_asciiBlank) h.not_arrow h.not_dot

/-- **A column that is qualified by the plain alias of a table, or by its plain last segment, is written after the
identifier that the table introduces.** -/
theorem columnName_qualified {source column : String} (hlabel : IsPlainName (Name.lastGiven source))
    (hcolumn : IsPlainName column) (h : policy.FoldsOnce source) :
    policy.columnName (Name.lastGiven source ++ "." ++ column) =
      (policy.tableText policy.tablePrefix source).introduced ++ "." ++ policy.identifier column := by
  have hchars : (Name.lastGiven source ++ "." ++ column).toList =
      (Name.lastGiven source).toList ++ '.' :: column.toList := by simp
  have halias : Name.splitAlias? (Name.lastGiven source ++ "." ++ column) = none := by
    refine Text.splitAlias?_eq_none fun c hc => ?_
    rw [hchars, List.mem_append, List.mem_cons] at hc
    rcases hc with hc | rfl | hc
    · exact hlabel.not_asciiBlank c hc
    · rfl
    · exact hcolumn.not_asciiBlank c hc
  have harrow : Text.cutAtArrow (Name.lastGiven source ++ "." ++ column).toList = none := by
    rw [hchars]
    refine Text.cutAtArrow_append hlabel.not_arrow ?_ (by simp)
    exact Text.cutAtArrow_cons_eq_none.2 ⟨by simp, hcolumn.not_arrow⟩
  have hpath : Text.dotted (Name.lastGiven source ++ "." ++ column) = [Name.lastGiven source, column] := by
    rw [Text.dotted, hchars, Text.splitOnChar_append hlabel.not_dot, Text.splitOnChar_of_forall_ne hcolumn.not_dot]
    simp
  rw [columnName_of_none halias, jsonSelector, harrow, hpath, introduced_tableText h,
    ← tableWithPrefix_of_plain hlabel]
  simp [path]

end Policy

end WarehouseSql
