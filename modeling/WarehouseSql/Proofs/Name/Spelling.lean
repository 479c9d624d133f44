import WarehouseSql.Name.Policy
import WarehouseSql.Proofs.Fragment.Inlines
import WarehouseSql.Proofs.Query.RawFree

/-!
Names in compiled SQL.  A case-sensitive policy quotes every name; another one writes it as it is, which is safe for
names of letters, digits, underscores, dots and spaces (`Policy.admits`).  What holds of identifiers and of a few words
holds of all columns and tables and of lists of them if it is kept when texts are put together and in path lookups
(`Policy.Spells`).  **A column that is admitted is spelled alike wherever it stands** (`Policy.spelled_columnName`), and
so is a table (`Policy.Spells.tableWithPrefix`).
-/

namespace WarehouseSql

open Fragment

/-- An ASCII letter, an ASCII digit, an underscore, a dot or a space. -/
def isNameChar (c : Char) : Bool := c.isAlphanum || c == '_' || c == '.' || c == ' '

/-- Whether the policy writes a name in a way that the scanner passes over. -/
def Policy.admits (policy : Policy) (name : String) : Bool := policy.caseSensitive || name.toList.all isNameChar

/-! ### characters of names -/

lemma isCalm_of_isNameChar {c : Char} (h : isNameChar c = true) : LexState.isCalm c = true :=
  LexState.isCalm_of_test (by decide) h

lemma toNat_le_of_isAlphanum {c : Char} (h : c.isAlphanum = true) : c.toNat ≤ 122 := by
  have hcases : ((c.isUpper || c.isLower) || c.isDigit) = true := h
  rw [Bool.or_eq_true, Bool.or_eq_true] at hcases
  rcases hcases with (hupper | hlower) | hdigit
  · have hlast : c.toNat ≤ 90 := (of_decide_eq_true hupper).2
    omega
  · have hbounds : (decide ('a'.val ≤ c.val) && decide (c.val ≤ 'z'.val)) = true := hlower
    rw [Bool.and_eq_true, decide_eq_true_eq, decide_eq_true_eq] at hbounds
    exact hbounds.2
  · have hbounds : (decide ('0'.val ≤ c.val) && decide (c.val ≤ '9'.val)) = true := hdigit
    rw [Bool.and_eq_true, decide_eq_true_eq, decide_eq_true_eq] at hbounds
    have hlast : c.toNat ≤ 57 := hbounds.2
    omega

lemma toNat_lt_of_isNameChar {c : Char} (h : isNameChar c = true) : c.toNat < 128 := by
  rw [isNameChar, Bool.or_eq_true, Bool.or_eq_true, Bool.or_eq_true, beq_iff_eq, beq_iff_eq, beq_iff_eq] at h
  rcases h with ((halphanum | rfl) | rfl) | rfl
  · have hlast := toNat_le_of_isAlphanum halphanum
    omega
  all_goals decide

lemma isNameChar_of_continuesName {c : Char} (h : Template.continuesName c = true) : isNameChar c = true := by
  have hparts : isNameChar c = (Template.continuesName c || c == '.' || c == ' ') := rfl
  rw [hparts, h]
  rfl

lemma forall_ascii {P : Char → Prop} (h : ∀ n < 128, P (Char.ofNat n)) {c : Char} (hc : c.toNat < 128) : P c := by
  have hchar := h c.toNat hc
  rwa [Char.ofNat_toNat] at hchar

lemma all_isNameChar_upperChar {c : Char} (h : isNameChar c = true) : (Text.upperChar c).all isNameChar = true := by
  exact forall_ascii (P := fun c => isNameChar c = true → (Text.upperChar c).all isNameChar = true) (by decide)
    (toNat_lt_of_isNameChar h) h

lemma all_isNameChar_upper {name : String} (h : name.toList.all isNameChar = true) :
    (Text.upper name).toList.all isNameChar = true := by
  rw [Text.upper, String.toList_ofList, List.all_flatMap]
  exact List.all_eq_true.2 fun c hc => all_isNameChar_upperChar (List.all_eq_true.1 h c hc)

/-! ### parts of names -/

lemma mem_of_mem_splitOnChar {sep : Char} {cs piece : List Char} (h : piece ∈ Text.splitOnChar sep cs) :
    ∀ c ∈ piece, c ∈ cs := by
  induction cs generalizing piece with
  | nil => simp_all [Text.splitOnChar]
  | cons d cs ih =>
    rw [Text.splitOnChar] at h
    intro c hc
    split at h
    · rcases List.mem_cons.1 h with rfl | h
      · simp at hc
      · exact List.mem_cons_of_mem _ (ih h c hc)
    · split at h
      · next hnil => exact absurd hnil (Text.splitOnChar_ne_nil _ _)
      · next first rest heq =>
        rcases List.mem_cons.1 h with rfl | h
        · rcases List.mem_cons.1 hc with rfl | hc
          · exact List.mem_cons_self
          · exact List.mem_cons_of_mem _ (ih (heq ▸ List.mem_cons_self) c hc)
        · exact List.mem_cons_of_mem _ (ih (heq ▸ List.mem_cons_of_mem _ h) c hc)

lemma mem_of_mem_dotted {name segment : String} (h : segment ∈ Text.dotted name) :
    ∀ c ∈ segment.toList, c ∈ name.toList := by
  obtain ⟨piece, hpiece, rfl⟩ := List.mem_map.1 h
  simpa using mem_of_mem_splitOnChar hpiece

lemma mem_of_mem_trimStartChars {cs : List Char} {c : Char} (h : c ∈ Text.trimStartChars cs) : c ∈ cs :=
  (List.dropWhile_sublist _).subset h

lemma mem_of_mem_trimEndChars {cs : List Char} {c : Char} (h : c ∈ Text.trimEndChars cs) : c ∈ cs := by
  obtain ⟨blanks, happend, -⟩ := Text.trimEndChars_append_blanks cs
  rw [← happend]
  exact List.mem_append_left _ h

lemma mem_of_mem_trim {text : String} {c : Char} (h : c ∈ (Text.trim text).toList) : c ∈ text.toList := by
  rw [Text.trim, String.toList_ofList] at h
  exact mem_of_mem_trimStartChars (mem_of_mem_trimEndChars h)

/-- Trimming leaves every character that is no blank. -/
lemma mem_trim {text : String} {c : Char} (hc : c ∈ text.toList) (hblank : Text.isBlank c = false) :
    c ∈ (Text.trim text).toList := by
  have hstart : c ∈ Text.trimStartChars text.toList := by
    rw [← List.takeWhile_append_dropWhile (p := Text.isBlank) (l := text.toList), List.mem_append] at hc
    refine hc.resolve_left fun htaken => ?_
    rw [List.mem_takeWhile_imp htaken] at hblank
    cases hblank
  obtain ⟨blanks, happend, hblanks⟩ := Text.trimEndChars_append_blanks (Text.trimStartChars text.toList)
  rw [← happend, List.mem_append] at hstart
  rw [Text.trim, String.toList_ofList]
  refine hstart.resolve_right fun hmem => ?_
  rw [List.all_eq_true.1 hblanks c hmem] at hblank
  cases hblank

lemma mem_of_splitAlias? {name left right : String} (h : Name.splitAlias? name = some (left, right)) :
    (∀ c ∈ left.toList, c ∈ name.toList) ∧ ∀ c ∈ right.toList, c ∈ name.toList := by
  simp only [Name.splitAlias?, Name.splitAliasChars?, Option.map_eq_some_iff, Prod.mk.injEq] at h
  obtain ⟨parts, h, rfl, rfl⟩ := h
  split at h
  · simp at h
  · next before after heq =>
    obtain ⟨a, s, -, happend⟩ := Name.append_of_cutAtKeyword heq
    split_ifs at h
    obtain rfl := Option.some.inj h
    rw [String.toList_ofList, String.toList_ofList, happend]
    exact ⟨fun c hc => List.mem_append_left _ (mem_of_mem_trimEndChars hc),
      fun c hc => List.mem_append_right _ (by simp [mem_of_mem_trimStartChars hc])⟩

lemma mem_of_cutAtArrow {cs before after : List Char} (h : Text.cutAtArrow cs = some (before, after)) :
    ∀ c ∈ before, c ∈ cs := by
  fun_induction Text.cutAtArrow cs generalizing before with
  | case1 => simp at h
  | case2 cs =>
    cases h
    simp
  | case3 d cs _ ih =>
    obtain ⟨⟨before', after'⟩, hcut, heq⟩ := Option.map_eq_some_iff.1 h
    cases heq
    intro c hc
    rcases List.mem_cons.1 hc with rfl | hc
    · exact List.mem_cons_self
    · exact List.mem_cons_of_mem _ (ih hcut c hc)

namespace Policy

variable {policy : Policy}

lemma admits_of_caseSensitive (hcase : policy.caseSensitive = true) (name : String) : policy.admits name = true := by
  rw [admits, hcase, Bool.true_or]

lemma admits_of_mem {name part : String} (h : policy.admits name = true)
    (hpart : ∀ c ∈ part.toList, c ∈ name.toList) : policy.admits part = true := by
  rw [admits, Bool.or_eq_true] at h ⊢
  exact h.imp_right fun h => List.all_eq_true.2 fun c hc => List.all_eq_true.1 h c (hpart c hc)

lemma admits_append {a b : String} (ha : policy.admits a = true) (hb : policy.admits b = true) :
    policy.admits (a ++ b) = true := by
  simp only [admits, Bool.or_eq_true, String.toList_append, List.all_append, Bool.and_eq_true] at ha hb ⊢
  rcases ha with ha | ha
  · exact .inl ha
  · exact hb.imp_right fun hb => ⟨ha, hb⟩

lemma admits_of_all_isNameChar {name : String} (h : name.toList.all isNameChar = true) : policy.admits name = true := by
  rw [admits, h, Bool.or_true]

lemma admits_getLastD {segments : List String} {default : String}
    (h : ∀ segment ∈ segments, policy.admits segment = true) (hdefault : policy.admits default = true) :
    policy.admits (segments.getLastD default) = true := by
  rcases List.eq_nil_or_concat segments with rfl | ⟨segments, segment, rfl⟩
  · exact hdefault
  · rw [List.concat_eq_append, List.getLastD_concat]
    exact h _ (by simp)

lemma admits_dotted {name : String} (h : policy.admits name = true) :
    ∀ segment ∈ Text.dotted name, policy.admits segment = true := fun _ hsegment =>
  admits_of_mem h (mem_of_mem_dotted hsegment)

/-! ### written names -/

lemma admits_folded {name : String} (h : policy.admits name = true) :
    policy.admits (if policy.caseSensitive then name else Text.upper name) = true := by
  split_ifs with hcase
  · exact h
  · have hchars : name.toList.all isNameChar = true := by simpa [admits, hcase] using h
    exact admits_of_all_isNameChar (all_isNameChar_upper hchars)

/-- The words in written names and in lists of them. -/
def nameWords : List String := ["", ".", " as ", ", "]

/-- A property of texts that the parts of written names have, and that is kept when texts are put together. -/
structure Spells (policy : Policy) (P : String → Prop) : Prop where
  append : ∀ {a b : String}, P a → P b → P (a ++ b)
  word : ∀ text ∈ nameWords, P text
  selector : ∀ {column : String} (keys : String), P column →
    P ("get_path(" ++ column ++ ", " ++ Text.quoteLiteral keys ++ ")")
  identifier : ∀ {name : String}, policy.admits name = true → P (policy.identifier name)

namespace Spells

variable {P : String → Prop} (hP : policy.Spells P)

include hP

lemma intercalate {separator : String} (hseparator : P separator) {pieces : List String}
    (h : ∀ piece ∈ pieces, P piece) : P (String.intercalate separator pieces) :=
  intercalate_induction (hP.word "" (by decide)) hP.append hseparator h

lemma dots {names : List String} (h : ∀ name ∈ names, policy.admits name = true) :
    P (String.intercalate "." (names.map policy.identifier)) := by
  refine hP.intercalate (hP.word "." (by decide)) fun piece hpiece => ?_
  obtain ⟨name, hname, rfl⟩ := List.mem_map.1 hpiece
  exact hP.identifier (h name hname)

lemma dottedTable {tablePrefix name : String} (hadmits : policy.admits tablePrefix = true)
    (h : policy.admits name = true) : P (policy.dottedTable tablePrefix name) := by
  have hsegments := admits_dotted (admits_folded h)
  simp only [Policy.dottedTable]
  generalize Text.dotted (if policy.caseSensitive then name else Text.upper name) = segments at hsegments
  have hlast : policy.admits (segments.getLastD "") = true :=
    admits_getLastD hsegments (admits_of_all_isNameChar rfl)
  have hmap : segments.dropLast.map policy.identifier ++ [policy.identifier (tablePrefix ++ segments.getLastD "")] =
      (segments.dropLast ++ [tablePrefix ++ segments.getLastD ""]).map policy.identifier := by
    rw [List.map_append, List.map_singleton]
  rw [hmap]
  refine hP.dots fun segment hsegment => ?_
  rcases List.mem_append.1 hsegment with hsegment | hsegment
  · exact hsegments _ (List.dropLast_subset _ hsegment)
  · rw [List.mem_singleton.1 hsegment]
    exact admits_append hadmits hlast

/-- **Tables have the property**, with a prefix and under any number of aliases. -/
theorem tableWithPrefix {tablePrefix name : String} (hadmits : policy.admits tablePrefix = true)
    (h : policy.admits name = true) : P (policy.tableWithPrefix tablePrefix name) := by
  fun_induction policy.tableWithPrefix tablePrefix name with
  | case1 name table label halias ih =>
    obtain ⟨htable, hlabel⟩ := mem_of_splitAlias? halias
    refine hP.append (hP.append (ih (admits_of_mem h htable)) (hP.word " as " (by decide))) ?_
    exact hP.identifier (admits_append hadmits (admits_of_mem h hlabel))
  | case2 name halias => exact hP.dottedTable hadmits h

/-! ### columns -/

lemma path {segments : List String} (hadmits : policy.admits policy.tablePrefix = true)
    (h : ∀ segment ∈ segments, policy.admits segment = true) : P (policy.path segments) := by
  unfold Policy.path
  split
  · next table column columns =>
    obtain ⟨htable, hcolumns⟩ := List.forall_mem_cons.1 h
    refine hP.intercalate (hP.word "." (by decide))
      (List.forall_mem_cons.2 ⟨hP.tableWithPrefix hadmits htable, ?_⟩)
    intro piece hpiece
    obtain ⟨name, hname, rfl⟩ := List.mem_map.1 hpiece
    exact hP.identifier (hcolumns name hname)
  · exact hP.dots h

lemma jsonSelector {selector : String} (hadmits : policy.admits policy.tablePrefix = true)
    (h : policy.admits selector = true) : P (policy.jsonSelector selector) := by
  unfold Policy.jsonSelector
  split
  · exact hP.path hadmits (admits_dotted h)
  · next column path hcut =>
    have hcolumn : policy.admits (String.ofList column) = true :=
      admits_of_mem h (by simpa using mem_of_cutAtArrow hcut)
    exact hP.selector _ (hP.path hadmits (admits_dotted hcolumn))

/-- **Columns have the property**, under any number of aliases and with JSON paths. -/
theorem columnName {name : String} (hadmits : policy.admits policy.tablePrefix = true)
    (h : policy.admits name = true) : P (policy.columnName name) := by
  fun_induction policy.columnName name with
  | case1 name column label halias ih =>
    obtain ⟨hcolumn, hlabel⟩ := mem_of_splitAlias? halias
    refine hP.append (hP.append (ih (admits_of_mem h hcolumn)) (hP.word " as " (by decide))) ?_
    exact hP.identifier (admits_of_mem h hlabel)
  | case2 name halias => exact hP.jsonSelector hadmits h

/-! ### references and lists -/

lemma column {r : Reference} (hadmits : policy.admits policy.tablePrefix = true) (h : r.isName policy.admits = true) :
    P (policy.column r) := by
  cases r with
  | raw sql => cases h
  | name name => exact hP.columnName hadmits h

lemma table {r : Reference} (hadmits : policy.admits policy.tablePrefix = true) (h : r.isName policy.admits = true) :
    P (policy.table r) := by
  cases r with
  | raw sql => cases h
  | name name => exact hP.tableWithPrefix hadmits h

lemma commaList {pieces : List String} (h : ∀ piece ∈ pieces, P piece) : P (Text.commaList pieces) :=
  hP.intercalate (hP.word ", " (by decide)) h

lemma columns {rs : List Reference} (hadmits : policy.admits policy.tablePrefix = true)
    (h : rs.all (·.isName policy.admits) = true) : P (policy.columns rs) := by
  refine hP.commaList fun piece hpiece => ?_
  obtain ⟨r, hr, rfl⟩ := List.mem_map.1 hpiece
  exact hP.column hadmits (List.all_eq_true.1 h r hr)

lemma columnNames {names : List String} (hadmits : policy.admits policy.tablePrefix = true)
    (h : names.all policy.admits = true) : P (policy.columnNames names) := by
  refine hP.commaList fun piece hpiece => ?_
  obtain ⟨name, hname, rfl⟩ := List.mem_map.1 hpiece
  exact hP.columnName hadmits (List.all_eq_true.1 h name hname)

end Spells

/-! ### spelled names -/

lemma spelled_identifier {name : String} (h : policy.admits name = true) : Spelled (policy.identifier name) := by
  rw [identifier]
  split_ifs with hstar hcase
  · rw [hstar]
    exact spelled_of_isCalm (by decide)
  · exact spelled_quoteIdentifier name
  · have hchars : name.toList.all isNameChar = true := by simpa [admits, hcase] using h
    refine spelled_of_isCalm (List.all_eq_true.2 fun c hc => isCalm_of_isNameChar ?_)
    rw [String.toList_ofList] at hc
    exact List.all_eq_true.1 (all_isNameChar_upper hchars) c (List.mem_filter.1 hc).1

lemma spells_spelled : policy.Spells Spelled where
  append := Spelled.append
  word text htext := by
    have hcalm : nameWords.all (fun word => word.toList.all LexState.isCalm) = true := by decide
    exact spelled_of_isCalm (List.all_eq_true.1 hcalm text htext)
  selector keys hcolumn :=
    (((Spelled.calm_append (by decide) hcolumn).append_calm (by decide)).append (spelled_quoteLiteral keys)).append_calm
      (by decide)
  identifier := spelled_identifier

/-- **Columns are spelled**, under any number of aliases and with JSON paths. -/
theorem spelled_columnName {name : String} (hadmits : policy.admits policy.tablePrefix = true)
    (h : policy.admits name = true) : Spelled (policy.columnName name) :=
  spells_spelled.columnName hadmits h

end Policy

end WarehouseSql
