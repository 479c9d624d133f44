import WarehouseSql.Proofs.Name.Qualified
import WarehouseSql.Proofs.Name.Quoting

/-!
What the warehouse stores of an identifier in SQL.  A quoted identifier is stored as it reads and any other one in upper
case (`Text.stored`), so **a name without quotes is stored in the letter case that its policy folds it to**
(`Policy.stored_identifier`).  A table is addressed by the last of its dotted identifiers, and **the name under which it
is looked up is that one exactly if the table has no dot, and neither dot nor quote comes in through the prefix**
(`Policy.storedTable_eq_addressed_iff`).
-/

namespace WarehouseSql

namespace Text

/-! ### identifiers -/

/-- The name under which the warehouse stores an identifier. -/
def stored (identifier : String) : String :=
  match readIdentifier? identifier.toList with
  | some (name, []) => String.ofList name
  | _ => upper identifier

lemma stored_quoteIdentifier (name : String) : stored (quoteIdentifier name) = name := by
  rw [stored, readIdentifier?_quoteIdentifier_self]
  exact String.ofList_toList

lemma stored_of_not_quote {identifier : String} (h : '"' ∉ identifier.toList) : stored identifier = upper identifier := by
  have hread : readIdentifier? identifier.toList = none := by
    rw [readIdentifier?.eq_def]
    split
    · next heq =>
      rw [heq] at h
      exact absurd List.mem_cons_self h
    · rfl
  rw [stored, hread]

/-! ### dotted identifiers -/

/-- Whether quotes are open after a text. -/
def quotedAfter (quoted : Bool) (cs : List Char) : Bool := cs.foldl (fun quoted c => quoted != (c == '"')) quoted

/-- What follows the last dot outside of quotes, if there is one. -/
def afterLastDot? (quoted : Bool) : List Char → Option (List Char)
  | [] => none
  | c :: cs => (afterLastDot? (quoted != (c == '"')) cs).or (if !quoted && c == '.' then some cs else none)

def lastIdentifier (path : String) : String :=
  match afterLastDot? false path.toList with
  | some rest => String.ofList rest
  | none => path

lemma quotedAfter_append (quoted : Bool) (as bs : List Char) :
    quotedAfter quoted (as ++ bs) = quotedAfter (quotedAfter quoted as) bs := List.foldl_append

lemma quotedAfter_of_not_quote (quoted : Bool) {cs : List Char} (h : '"' ∉ cs) : quotedAfter quoted cs = quoted := by
  induction cs with
  | nil => rfl
  | cons c cs ih =>
    obtain ⟨hc, hcs⟩ := not_or.1 (mt List.mem_cons.2 h)
    have hstep : (quoted != (c == '"')) = quoted := by cases quoted <;> simp [Ne.symm hc]
    rw [quotedAfter, List.foldl_cons, hstep]
    exact ih hcs

lemma quotedAfter_escapeIdentifier (quoted : Bool) (cs : List Char) :
    quotedAfter quoted (escapeIdentifier cs) = quoted := by
  induction cs with
  | nil => rfl
  | cons c cs ih =>
    rw [escapeIdentifier]
    split_ifs with hc
    · -- a doubled quote closes and opens again
      have hstep : ((quoted != (c == '"')) != (c == '"')) = quoted := by cases quoted <;> simp [hc]
      rw [quotedAfter, List.foldl_cons, List.foldl_cons, hstep]
      exact ih
    · have hstep : (quoted != (c == '"')) = quoted := by cases quoted <;> simp [hc]
      rw [quotedAfter, List.foldl_cons, hstep]
      exact ih

lemma quotedAfter_quoteIdentifier (name : String) : quotedAfter false (quoteIdentifier name).toList = false := by
  have hchars : (quoteIdentifier name).toList = ['"'] ++ escapeIdentifier name.toList ++ ['"'] := by
    simp [quoteIdentifier]
  rw [hchars, quotedAfter_append, quotedAfter_append, quotedAfter_escapeIdentifier]
  rfl

lemma afterLastDot?_append (quoted : Bool) (as bs : List Char) :
    afterLastDot? quoted (as ++ bs) =
      (afterLastDot? (quotedAfter quoted as) bs).or ((afterLastDot? quoted as).map (· ++ bs)) := by
  induction as generalizing quoted with
  | nil => simp [afterLastDot?, quotedAfter]
  | cons a as ih =>
    rw [List.cons_append, afterLastDot?, afterLastDot?, ih, Option.or_assoc, Option.map_or]
    split_ifs <;> rfl

lemma afterLastDot?_of_not_dot (quoted : Bool) {cs : List Char} (h : '.' ∉ cs) : afterLastDot? quoted cs = none := by
  induction cs generalizing quoted with
  | nil => rfl
  | cons c cs ih =>
    obtain ⟨hc, hcs⟩ := not_or.1 (mt List.mem_cons.2 h)
    rw [afterLastDot?, ih _ hcs]
    simp [Ne.symm hc]

lemma afterLastDot?_escapeIdentifier (cs : List Char) : afterLastDot? true (escapeIdentifier cs ++ ['"']) = none := by
  induction cs with
  | nil => rfl
  | cons c cs ih =>
    rw [escapeIdentifier]
    split_ifs with hc
    · simp [afterLastDot?, hc, ih]
    · have hstep : (true != (c == '"')) = true := by simp [hc]
      rw [List.cons_append, afterLastDot?, hstep, ih]
      rfl

lemma afterLastDot?_quoteIdentifier (name : String) : afterLastDot? false (quoteIdentifier name).toList = none := by
  have hchars : (quoteIdentifier name).toList = '"' :: (escapeIdentifier name.toList ++ ['"']) := by
    simp [quoteIdentifier]
  rw [hchars, afterLastDot?]
  simp [afterLastDot?_escapeIdentifier]

/-- Nothing but dots outside of quotes counts, and the last one decides. -/
lemma lastIdentifier_append {first : String} (h : quotedAfter false first.toList = false) (rest : String) :
    lastIdentifier (first ++ "." ++ rest) = lastIdentifier rest := by
  have hchars : (first ++ "." ++ rest).toList = first.toList ++ '.' :: rest.toList := by simp
  have hrest : afterLastDot? false ('.' :: rest.toList) = (afterLastDot? false rest.toList).or (some rest.toList) := rfl
  rw [lastIdentifier, lastIdentifier, hchars, afterLastDot?_append, h, hrest]
  cases afterLastDot? false rest.toList with
  | none => exact String.ofList_toList
  | some last => rfl

lemma lastIdentifier_intercalate {leading : List String} {last : String}
    (h : ∀ identifier ∈ leading, quotedAfter false identifier.toList = false)
    (hlast : afterLastDot? false last.toList = none) :
    lastIdentifier (String.intercalate "." (leading ++ [last])) = last := by
  induction leading with
  | nil => rw [List.nil_append, String.intercalate_singleton, lastIdentifier, hlast]
  | cons first leading ih =>
    obtain ⟨hfirst, hleading⟩ := List.forall_mem_cons.1 h
    obtain ⟨second, rest, hrest⟩ := List.exists_cons_of_ne_nil (show leading ++ [last] ≠ [] by simp)
    have ih := ih hleading
    rw [hrest] at ih
    rw [List.cons_append, hrest, String.intercalate_cons_cons, lastIdentifier_append hfirst, ih]

/-- Without quotes every dot counts. -/
lemma not_dot_of_afterLastDot?_eq_none {cs : List Char} (hquote : '"' ∉ cs) (h : afterLastDot? false cs = none) :
    '.' ∉ cs := by
  intro hdot
  obtain ⟨as, bs, rfl⟩ := List.append_of_mem hdot
  obtain ⟨has, -⟩ := not_or.1 (mt List.mem_append.2 hquote)
  rw [afterLastDot?_append, quotedAfter_of_not_quote _ has, afterLastDot?] at h
  simp at h

lemma not_dot_afterLastDot? {cs rest : List Char} (hquote : '"' ∉ cs) (h : afterLastDot? false cs = some rest) :
    '.' ∉ rest ∧ rest ⊆ cs := by
  induction cs with
  | nil => cases h
  | cons c cs ih =>
    obtain ⟨hc, hcs⟩ := not_or.1 (mt List.mem_cons.2 hquote)
    have hstep : (false != (c == '"')) = false := by simp [Ne.symm hc]
    rw [afterLastDot?, hstep] at h
    cases hafter : afterLastDot? false cs with
    | some rest' =>
      rw [hafter] at h
      cases h
      exact (ih hcs hafter).imp_right (List.subset_cons_of_subset c)
    | none =>
      rw [hafter, Option.none_or] at h
      split_ifs at h
      cases h
      exact ⟨not_dot_of_afterLastDot?_eq_none hcs hafter, List.subset_cons_self c rest⟩

lemma not_dot_lastIdentifier {path : String} (hquote : '"' ∉ path.toList) :
    '.' ∉ (lastIdentifier path).toList ∧ (lastIdentifier path).toList ⊆ path.toList := by
  rw [lastIdentifier]
  split
  · next rest hrest =>
    rw [String.toList_ofList]
    exact not_dot_afterLastDot? hquote hrest
  · next hnone => exact ⟨not_dot_of_afterLastDot?_eq_none hquote hnone, List.Subset.refl _⟩

/-! ### segments -/

lemma sep_not_mem_of_mem_splitOnChar {sep : Char} {cs piece : List Char} (h : piece ∈ splitOnChar sep cs) :
    sep ∉ piece := by
  induction cs generalizing piece with
  | nil =>
    rw [splitOnChar, List.mem_singleton] at h
    rw [h]
    exact List.not_mem_nil
  | cons c cs ih =>
    rw [splitOnChar] at h
    split at h
    · rcases List.mem_cons.1 h with rfl | h
      · exact List.not_mem_nil
      · exact ih h
    · next hc =>
      split at h
      · next hnil => exact absurd hnil (splitOnChar_ne_nil _ _)
      · next first rest heq =>
        rw [heq] at ih
        rcases List.mem_cons.1 h with rfl | h
        · rw [List.mem_cons]
          exact not_or.2 ⟨Ne.symm hc, ih List.mem_cons_self⟩
        · exact ih (List.mem_cons_of_mem _ h)

lemma not_dot_getLastD_dotted (name : String) : '.' ∉ ((dotted name).getLastD "").toList := by
  rw [List.getLastD_eq_getLast?, List.getLast?_eq_some_getLast (dotted_ne_nil name), Option.getD_some]
  obtain ⟨piece, hpiece, hlast⟩ := List.mem_map.1 (List.getLast_mem (dotted_ne_nil name))
  rw [← hlast, String.toList_ofList]
  exact sep_not_mem_of_mem_splitOnChar hpiece

end Text

namespace Policy

variable {policy : Policy} {tablePrefix name table : String}

/-! ### stored names -/

lemma identifier_of_caseSensitive (h : policy.caseSensitive = true) (hstar : name ≠ "*") :
    policy.identifier name = Text.quoteIdentifier name := by
  rw [identifier, if_neg hstar, if_pos h]

lemma not_quote_identifier (h : policy.caseSensitive = false) (name : String) :
    '"' ∉ (policy.identifier name).toList := by
  rw [identifier_of_not_caseSensitive h, String.toList_ofList]
  simp

lemma identifier_of_not_quote (h : policy.caseSensitive = false) (hquote : '"' ∉ name.toList) :
    policy.identifier name = Text.upper name := by
  have hsame : (Text.upper name).toList.filter (· != '"') = (Text.upper name).toList := by
    refine List.filter_eq_self.2 fun c hc => bne_iff_ne.2 ?_
    rintro rfl
    exact hquote ((Text.mem_upper_iff (by decide) (by decide)).1 hc)
  rw [identifier_of_not_caseSensitive h, hsame, String.ofList_toList]

/-- **A name without quotes is stored in the letter case of the policy.** -/
theorem stored_identifier (hquote : '"' ∉ name.toList) : Text.stored (policy.identifier name) = policy.folded name := by
  cases hcase : policy.caseSensitive with
  | true =>
    rw [folded, if_pos hcase]
    by_cases hstar : name = "*"
    · rw [hstar, identifier, if_pos rfl]
      decide
    · rw [identifier_of_caseSensitive hcase hstar, Text.stored_quoteIdentifier]
  | false =>
    rw [Text.stored_of_not_quote (not_quote_identifier hcase name), folded, if_neg (by simp [hcase]),
      identifier_of_not_quote hcase hquote, Text.upper_upper]

/-- The name that the warehouse stores for a table as it is addressed in SQL. -/
def addressed (policy : Policy) (table : String) : String :=
  Text.stored (Text.lastIdentifier (policy.table (.name table)))

lemma quotedAfter_identifier (name : String) : Text.quotedAfter false (policy.identifier name).toList = false := by
  cases hcase : policy.caseSensitive with
  | true =>
    by_cases hstar : name = "*"
    · rw [hstar, identifier, if_pos rfl]
      decide
    · rw [identifier_of_caseSensitive hcase hstar]
      exact Text.quotedAfter_quoteIdentifier name
  | false => exact Text.quotedAfter_of_not_quote _ (not_quote_identifier hcase name)

lemma afterLastDot?_identifier (h : policy.caseSensitive = true) (name : String) :
    Text.afterLastDot? false (policy.identifier name).toList = none := by
  by_cases hstar : name = "*"
  · rw [hstar, identifier, if_pos rfl]
    decide
  · rw [identifier_of_caseSensitive h hstar]
    exact Text.afterLastDot?_quoteIdentifier name

/-- Under a case-sensitive policy a table is stored under its last segment, with the prefix in front. -/
lemma addressed_of_caseSensitive (h : policy.caseSensitive = true) (halias : Name.splitAlias? table = none) :
    policy.addressed table = policy.tablePrefix ++ (Text.dotted table).getLastD "" := by
  have hlast : Text.lastIdentifier (policy.table (.name table)) =
      policy.identifier (policy.tablePrefix ++ (Text.dotted table).getLastD "") := by
    rw [Policy.table, tableWithPrefix_of_none halias, dottedTable, if_pos h]
    refine Text.lastIdentifier_intercalate (fun text htext => ?_) (afterLastDot?_identifier h _)
    obtain ⟨segment, -, rfl⟩ := List.mem_map.1 htext
    exact quotedAfter_identifier segment
  rw [addressed, hlast]
  by_cases hstar : policy.tablePrefix ++ (Text.dotted table).getLastD "" = "*"
  · rw [hstar, identifier, if_pos rfl]
    decide
  · rw [identifier_of_caseSensitive h hstar, Text.stored_quoteIdentifier]

lemma not_quote_table (h : policy.caseSensitive = false) (halias : Name.splitAlias? table = none) :
    '"' ∉ (policy.table (.name table)).toList := by
  rw [Policy.table, tableWithPrefix_of_none halias, dottedTable, ← List.map_singleton, ← List.map_append]
  refine Fragment.intercalate_induction (P := fun text => '"' ∉ text.toList) (by simp) (fun ha hb => ?_) (by simp)
    fun text htext => ?_
  · rw [String.toList_append, List.mem_append]
    exact not_or.2 ⟨ha, hb⟩
  · obtain ⟨segment, -, rfl⟩ := List.mem_map.1 htext
    exact not_quote_identifier h segment

/-- Under a case-insensitive policy a table is stored in upper case, without dots and quotes. -/
lemma addressed_of_not_caseSensitive (h : policy.caseSensitive = false) (halias : Name.splitAlias? table = none) :
    policy.addressed table = Text.upper (Text.lastIdentifier (policy.table (.name table))) ∧
      '.' ∉ (policy.addressed table).toList ∧ '"' ∉ (policy.addressed table).toList := by
  have hquote := not_quote_table h halias
  obtain ⟨hdot, hsubset⟩ := Text.not_dot_lastIdentifier hquote
  have hlast : '"' ∉ (Text.lastIdentifier (policy.table (.name table))).toList := fun hmem => hquote (hsubset hmem)
  have hstored : policy.addressed table = Text.upper (Text.lastIdentifier (policy.table (.name table))) :=
    Text.stored_of_not_quote hlast
  refine ⟨hstored, ?_, ?_⟩
  · rwa [hstored, Text.mem_upper_iff (by decide) (by decide)]
  · rwa [hstored, Text.mem_upper_iff (by decide) (by decide)]

/-- **A table is looked up by the name under which it is stored** exactly if it has no dot and, where letter case is
folded, neither dots nor quotes come in through the prefix. -/
theorem storedTable_eq_addressed_iff (hquote : '"' ∉ table.toList) (halias : Name.splitAlias? table = none) :
    policy.storedTable table = policy.addressed table ↔
      '.' ∉ table.toList ∧
        (policy.caseSensitive = true ∨ ∀ c ∈ policy.tablePrefix.toList, c ≠ '.' ∧ c ≠ '"') := by
  cases hcase : policy.caseSensitive with
  | true =>
    rw [addressed_of_caseSensitive hcase halias, storedTable, if_pos hcase]
    simp only [true_or, and_true]
    constructor
    · intro h
      have hlast : table = (Text.dotted table).getLastD "" :=
        String.toList_inj.1 (by simpa using congrArg String.toList h)
      rw [hlast]
      exact Text.not_dot_getLastD_dotted table
    · intro hdot
      rw [Text.dotted_of_not_dot fun c hc heq => hdot (heq ▸ hc)]
      rfl
  | false =>
    have hfolded : policy.storedTable table = Text.upper (policy.tablePrefix ++ table) := by simp [storedTable, hcase]
    obtain ⟨hstored, hdot, hquoted⟩ := addressed_of_not_caseSensitive hcase halias
    simp only [Bool.false_eq_true, false_or]
    constructor
    · intro h
      -- what the warehouse stores for a table in upper case has neither dots nor quotes
      rw [← h, hfolded, Text.mem_upper_iff (by decide) (by decide), String.toList_append, List.mem_append, not_or]
        at hdot hquoted
      refine ⟨hdot.2, fun c hc => ⟨?_, ?_⟩⟩ <;> rintro rfl
      · exact hdot.1 hc
      · exact hquoted.1 hc
    · rintro ⟨htable, hsigns⟩
      have hdots : '.' ∉ (policy.tablePrefix ++ table).toList := by
        rw [String.toList_append, List.mem_append]
        exact not_or.2 ⟨fun hmem => (hsigns _ hmem).1 rfl, htable⟩
      have hquotes : '"' ∉ (policy.tablePrefix ++ table).toList := by
        rw [String.toList_append, List.mem_append]
        exact not_or.2 ⟨fun hmem => (hsigns _ hmem).2 rfl, hquote⟩
      have hwritten : policy.table (.name table) = Text.upper (policy.tablePrefix ++ table) := by
        rw [Policy.table, tableWithPrefix_of_not_dot halias fun c hc heq => htable (heq ▸ hc),
          identifier_of_not_quote hcase hquotes]
      have hlast : Text.lastIdentifier (policy.table (.name table)) = policy.table (.name table) := by
        rw [Text.lastIdentifier, Text.afterLastDot?_of_not_dot]
        rwa [hwritten, Text.mem_upper_iff (by decide) (by decide)]
      rw [hstored, hlast, hwritten, hfolded, Text.upper_upper]

end Policy

end WarehouseSql
