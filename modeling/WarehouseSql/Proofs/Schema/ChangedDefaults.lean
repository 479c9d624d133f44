import WarehouseSql.Proofs.Schema.ColumnChanges

/-!
Defaults of changed columns.  A default can be changed only if it takes the next value of a sequence
(`TakesNextValue`), so a change of a column leaves every other default out.  It tells the two apart by the letters
`.nextval`, wherever they stand.  **No other default is kept, be it a value or the current time, exactly if the letters
do not stand in a text value or elsewhere in an expression than at the end of a name**
(`SchemaDialect.keepsSequencesOnly_iff`); a text with the letters in it is kept (`SchemaDialect.exists_default_mistaken`).
-/

namespace WarehouseSql

/-! ### letters in quotes -/

section

variable {word : List Char}

lemma not_prefix_cons_of_not_mem {c : Char} (hword : word ≠ []) (hc : c ∉ word) (cs : List Char) :
    ¬ word <+: c :: cs := by
  intro h
  cases word with
  | nil => exact hword rfl
  | cons d word =>
    obtain rfl := (List.cons_prefix_cons.1 h).1
    exact hc List.mem_cons_self

lemma infix_cons_of_not_mem {c : Char} (hword : word ≠ []) (hc : c ∉ word) {cs : List Char} :
    word <:+: c :: cs ↔ word <:+: cs := by
  rw [List.infix_cons_iff, or_iff_right (not_prefix_cons_of_not_mem hword hc cs)]

variable (hquote : '\'' ∉ word) (hbackslash : '\\' ∉ word)

include hquote hbackslash

lemma prefix_escapeLiteral_iff {cs : List Char} : word <+: Text.escapeLiteral cs ++ ['\''] ↔ word <+: cs := by
  induction cs generalizing word with
  | nil =>
    rcases eq_or_ne word [] with rfl | hword
    · exact iff_of_true List.nil_prefix List.nil_prefix
    · exact iff_of_false (not_prefix_cons_of_not_mem hword hquote []) (mt List.prefix_nil.1 hword)
  | cons c cs ih =>
    cases word with
    | nil => exact iff_of_true List.nil_prefix List.nil_prefix
    | cons d word =>
      rw [Text.escapeLiteral]
      split_ifs with hc
      · have hmem : c ∉ d :: word := by
          rcases hc with rfl | rfl
          · exact hquote
          · exact hbackslash
        exact iff_of_false (not_prefix_cons_of_not_mem (List.cons_ne_nil d word) hmem _)
          (not_prefix_cons_of_not_mem (List.cons_ne_nil d word) hmem _)
      · have hword := ih (fun h => hquote (List.mem_cons_of_mem d h)) fun h => hbackslash (List.mem_cons_of_mem d h)
        rw [List.cons_append, List.cons_prefix_cons, List.cons_prefix_cons, hword]

/-- Quoting a text neither breaks nor makes letters that are neither quotes nor backslashes. -/
lemma infix_quoteLiteral_iff (hword : word ≠ []) (content : String) :
    word <:+: (Text.quoteLiteral content).toList ↔ word <:+: content.toList := by
  rw [toList_quoteLiteral, infix_cons_of_not_mem hword hquote]
  -- the closing quote stays in the induction: the letters cannot run into it
  induction content.toList with
  | nil => rw [Text.escapeLiteral, List.nil_append, infix_cons_of_not_mem hword hquote]
  | cons c cs ih =>
    by_cases hc : c = '\'' ∨ c = '\\'
    · have hmem : c ∉ word := by
        rcases hc with rfl | rfl
        · exact hquote
        · exact hbackslash
      rw [Text.escapeLiteral, if_pos hc, List.cons_append, List.cons_append, infix_cons_of_not_mem hword hmem,
        infix_cons_of_not_mem hword hmem, infix_cons_of_not_mem hword hmem, ih]
    · have hprefix : word <+: Text.escapeLiteral (c :: cs) ++ ['\''] ↔ word <+: c :: cs :=
        prefix_escapeLiteral_iff hquote hbackslash
      rw [Text.escapeLiteral, if_neg hc, List.cons_append] at hprefix
      rw [Text.escapeLiteral, if_neg hc, List.cons_append, List.infix_cons_iff, List.infix_cons_iff, ih, hprefix]

end

/-! ### the next value of a sequence -/

/-- The letters by which a change tells that a default takes the next value of a sequence. -/
def HoldsNextValue (text : String) : Prop := ".nextval".toList <:+: text.toList

instance (text : String) : Decidable (HoldsNextValue text) :=
  decidable_of_iff (Text.contains ".nextval".toList text.toList = true) contains_iff

/-- An expression takes the next value of a sequence: `.nextval` ends a name in its code. -/
def TakesNextValue (sql : String) : Prop :=
  ∃ before after, Template.codeChars .code sql.toList = before ++ ".nextval".toList ++ after ∧
    after.head?.any Template.continuesName = false

lemma isNumeral_eq_false {content : String} (h : HoldsNextValue content) : isNumeral content = false := by
  have hx : 'x' ∈ (Text.trim content).toList := mem_trim (h.subset (by decide)) (by decide)
  rw [Text.trim, String.toList_ofList] at hx
  rw [Bool.eq_false_iff]
  intro hnumeral
  obtain ⟨numeral, hread⟩ := Option.isSome_iff_exists.1 hnumeral
  exact not_mem_of_isSigned (isSigned_of_read? hread) hx

lemma not_mem_text (number : Binary64) : 'x' ∉ number.text.toList := by
  cases number with
  | nan => decide
  | infinite negative => cases negative <;> decide
  | finite negative magnitude => exact not_mem_of_isSigned (isPlain_text rfl).isSigned

namespace ColumnDefinition

variable {c : ColumnDefinition}

/-- A default that a change keeps: an expression or a text with the letters in it; no text stands for a truth value. -/
def KeepsDefault (c : ColumnDefinition) : Prop :=
  (∃ sql, c.default = some (.raw sql) ∧ HoldsNextValue sql) ∨
    c.type ≠ .boolean ∧ ∃ content, c.default = some (.value (.text content)) ∧ HoldsNextValue content

/-- A default that is mistaken for the next value of a sequence: a text, or an expression that has the letters elsewhere
than at the end of a name. -/
def MistakenForSequence (c : ColumnDefinition) : Prop :=
  (∃ sql, c.default = some (.raw sql) ∧ HoldsNextValue sql ∧ ¬ TakesNextValue sql) ∨
    c.type ≠ .boolean ∧ ∃ content, c.default = some (.value (.text content)) ∧ HoldsNextValue content

lemma keptDefault?_eq_some_iff {sql : String} :
    c.keptDefault? = some sql ↔
      (∃ operand, c.default = some operand ∧ defaultSql? c.type operand = some sql) ∧ HoldsNextValue sql := by
  rw [keptDefault?, Option.filter_eq_some_iff, Option.bind_eq_some_iff, contains_iff, HoldsNextValue]

/-- Of the values only texts can have the letters in them, and they have them in quotes. -/
lemma keepsDefault_iff : (∃ sql, c.keptDefault? = some sql) ↔ c.KeepsDefault := by
  have hquoted : ∀ content, HoldsNextValue (Text.quoteLiteral content) ↔ HoldsNextValue content :=
    infix_quoteLiteral_iff (by decide) (by decide) (by decide)
  have hx : ∀ {sql : String}, HoldsNextValue sql → 'x' ∈ sql.toList := fun hsql => hsql.subset (by decide)
  constructor
  · rintro ⟨sql, hsql⟩
    obtain ⟨⟨operand, hdefault, hoperand⟩, hholds⟩ := keptDefault?_eq_some_iff.1 hsql
    rcases defaultSql?_cases hoperand with rfl | ⟨flag, rfl⟩ | hsigned | ⟨number, rfl⟩ | ⟨content, rfl, htype, rfl⟩
    · exact .inl ⟨sql, hdefault, hholds⟩
    · refine absurd (hx hholds) ?_
      cases flag <;> decide
    · exact absurd (hx hholds) (not_mem_of_isSigned hsigned)
    · exact absurd (hx hholds) (not_mem_text number)
    · exact .inr ⟨htype, content, hdefault, (hquoted content).1 hholds⟩
  · rintro (⟨sql, hdefault, hholds⟩ | ⟨htype, content, hdefault, hholds⟩)
    · exact ⟨sql, keptDefault?_eq_some_iff.2 ⟨⟨_, hdefault, rfl⟩, hholds⟩⟩
    · refine ⟨Text.quoteLiteral content, keptDefault?_eq_some_iff.2 ⟨⟨_, hdefault, ?_⟩, (hquoted content).2 hholds⟩⟩
      simp [defaultSql?, htype, isNumeral_eq_false hholds]

end ColumnDefinition

/-! ### changes of defaults -/

namespace SchemaDialect

variable (d : SchemaDialect) (b : Blueprint)

/-- A statement that modifies a column carries the default of the column: without the default it is another one. -/
def CarriesDefault (c : ColumnDefinition) (sql : String) : Prop := d.modification b { c with default := none } ≠ .ok sql

/-- A statement that modifies a column carries no default but the next value of a sequence, and does not depend on
whether the column follows the current time. -/
structure KeepsSequencesOnly (c : ColumnDefinition) (sql : String) : Prop where
  sequence : d.CarriesDefault b c sql → ∃ expression, c.default = some (.raw expression) ∧ TakesNextValue expression
  current : ∀ useCurrent useCurrentOnUpdate, d.modification b { c with useCurrent, useCurrentOnUpdate } = .ok sql

variable {d b}

/-- The modifiers that a change keeps of a column with a default are those that it keeps without, and the default. -/
lemma exists_changeModifiers (c : ColumnDefinition) (policy : Policy) :
    ∃ before after, { c with default := none }.changeModifiers policy = before ++ after ∧
      c.changeModifiers policy = before ++ (c.keptDefault?.map .default).toList ++ after := by
  refine ⟨(c.charset.map .charset).toList ++ (c.collation.map .collation).toList ++ (c.virtualAs.map .virtualAs).toList
      ++ (c.storedAs.map .storedAs).toList ++ ((ColumnDefinition.positive c.srid).map .srid).toList,
    (c.comment.map .comment).toList ++ (c.after.map fun column => .after (policy.columnName column)).toList
      ++ (if c.first then [.first] else []), ?_, ?_⟩
  · have hnone : { c with default := none }.keptDefault? = none := rfl
    simp only [ColumnDefinition.changeModifiers, hnone, Option.map_none, Option.toList_none, List.append_nil,
      List.append_assoc]
  · simp only [ColumnDefinition.changeModifiers, List.append_assoc]

lemma carriesDefault_iff {c : ColumnDefinition} {sql : String} (h : d.modification b c = .ok sql) :
    d.CarriesDefault b c sql ↔ c.KeepsDefault := by
  obtain ⟨type, htype, rfl⟩ := modification_eq_ok_iff.1 h
  have hwithout : d.modification b { c with default := none } = .ok _ := modification_eq_ok_iff.2 ⟨type, htype, rfl⟩
  obtain ⟨before, after, hbefore, hafter⟩ := exists_changeModifiers c d.policy
  rw [← ColumnDefinition.keepsDefault_iff, CarriesDefault, hwithout, hbefore, hafter]
  cases hkept : c.keptDefault? with
  | none => simp
  | some kept =>
    refine iff_of_true (fun hsame => ?_) ⟨kept, rfl⟩
    -- the same modifiers stand around the default, so only the lengths tell the two statements apart
    have hlength := congrArg String.length (Except.ok.inj hsame)
    simp [alter, String.length_append, String.join_append] at hlength

/-- The statement that modifies a column does not depend on whether the column follows the current time. -/
lemma modification_current {c : ColumnDefinition} {sql : String} (h : d.modification b c = .ok sql)
    (useCurrent useCurrentOnUpdate : Bool) : d.modification b { c with useCurrent, useCurrentOnUpdate } = .ok sql := by
  obtain ⟨type, htype, hsql⟩ := modification_eq_ok_iff.1 h
  exact modification_eq_ok_iff.2 ⟨type, htype, hsql⟩

lemma keepsSequencesOnly_iff_not_mistaken {c : ColumnDefinition} {sql : String} (h : d.modification b c = .ok sql) :
    d.KeepsSequencesOnly b c sql ↔ ¬ c.MistakenForSequence := by
  constructor
  · rintro ⟨hsequence, -⟩ (⟨expression, hdefault, hholds, hnot⟩ | ⟨htype, content, hdefault, hholds⟩)
    · obtain ⟨taken, htaken, htakes⟩ := hsequence ((carriesDefault_iff h).2 (.inl ⟨expression, hdefault, hholds⟩))
      obtain rfl : expression = taken := Operand.raw.inj (Option.some.inj (hdefault.symm.trans htaken))
      exact hnot htakes
    · obtain ⟨taken, htaken, -⟩ := hsequence ((carriesDefault_iff h).2 (.inr ⟨htype, content, hdefault, hholds⟩))
      cases Option.some.inj (hdefault.symm.trans htaken)
  · intro hmistaken
    refine ⟨fun hcarries => ?_, modification_current h⟩
    rcases (carriesDefault_iff h).1 hcarries with ⟨expression, hdefault, hholds⟩ | hliteral
    · refine ⟨expression, hdefault, ?_⟩
      by_contra hnot
      exact hmistaken (.inl ⟨expression, hdefault, hholds, hnot⟩)
    · exact absurd (.inr hliteral) hmistaken

/-- **A change of columns begins with a statement for each, which carries the default of the column exactly if the
letters `.nextval` stand in it.**  So it carries no default but the next value of a sequence, and not the current time,
exactly if the default is not mistaken for such a value. -/
theorem keepsSequencesOnly_iff (d : SchemaDialect) (b : Blueprint) {statements : List String}
    (h : d.changeColumns b = .ok statements) :
    ∃ bases later, statements = bases ++ later ∧ List.Forall₂ (fun c sql => d.modification b c = .ok sql ∧
      (d.CarriesDefault b c sql ↔ c.KeepsDefault) ∧ (d.KeepsSequencesOnly b c sql ↔ ¬ c.MistakenForSequence))
        b.changedColumns bases := by
  obtain ⟨columns, hcolumns, hstatements⟩ := Compiled.bind_eq_ok.1 h
  obtain rfl := Except.ok.inj hstatements
  refine ⟨_, _, List.append_assoc .., (forall₂_modification (Compiled.mapM_eq_ok_iff.1 hcolumns)).imp ?_⟩
  exact fun c sql hsql => ⟨hsql, carriesDefault_iff hsql, keepsSequencesOnly_iff_not_mistaken hsql⟩

/-- A room number that is the next of a sequence. -/
def roomNumber : ColumnDefinition :=
  { name := "id", type := .bigInteger, default := some (.raw "room_seq.nextval"), change := true }

/-- A time that follows the current one by itself. -/
def roomTime : ColumnDefinition :=
  { name := "since", type := .timestamp, precision := some 3, nullable := some true, useCurrent := true,
    useCurrentOnUpdate := true, default := some (.value (.text "now")), change := true }

def numberedRooms : Blueprint := { table := "room", columns := [roomNumber, roomTime] }

def roomNumberSql : String := "alter table \"hotel_room\" modify column \"id\" bigint default room_seq.nextval"

def roomTimeSql : String := "alter table \"hotel_room\" modify column \"since\" timestamp(3)"

theorem keepsSequencesOnly_iff_numberedRooms :
    hotel.changeColumns numberedRooms = .ok [roomNumberSql, roomTimeSql,
        "alter table \"hotel_room\" modify column \"id\" set not null",
        "alter table \"hotel_room\" modify column \"since\" drop not null"] ∧
      (hotel.CarriesDefault numberedRooms roomNumber roomNumberSql ∧
        hotel.KeepsSequencesOnly numberedRooms roomNumber roomNumberSql) ∧
      ¬ hotel.CarriesDefault numberedRooms roomTime roomTimeSql ∧
        hotel.KeepsSequencesOnly numberedRooms roomTime roomTimeSql := by
  have hsql : hotel.changeColumns numberedRooms = .ok [roomNumberSql, roomTimeSql,
      "alter table \"hotel_room\" modify column \"id\" set not null",
      "alter table \"hotel_room\" modify column \"since\" drop not null"] := by decide +kernel
  have htakes : TakesNextValue "room_seq.nextval" := ⟨"room_seq".toList, [], by decide +kernel, rfl⟩
  have hnow : ¬ HoldsNextValue "now" := by decide +kernel
  obtain ⟨bases, later, hbases, hall⟩ := keepsSequencesOnly_iff hotel numberedRooms hsql
  obtain ⟨first, others, ⟨-, hcarries, hkeeps⟩, hothers, rfl⟩ := List.forall₂_cons_left_iff.1 hall
  obtain ⟨second, none, ⟨-, hcarries', hkeeps'⟩, -, rfl⟩ := List.forall₂_cons_left_iff.1 hothers
  obtain ⟨rfl, hrest⟩ := List.cons.inj hbases
  obtain ⟨rfl, -⟩ := List.cons.inj hrest
  refine ⟨hsql, ⟨hcarries.2 (.inl ⟨_, rfl, by decide +kernel⟩), hkeeps.2 ?_⟩, mt hcarries'.1 ?_, hkeeps'.2 ?_⟩
  · rintro (⟨sql, hdefault, -, hnot⟩ | ⟨-, content, hdefault, -⟩)
    · cases hdefault
      exact hnot htakes
    · cases hdefault
  · rintro (⟨sql, hdefault, -⟩ | ⟨-, content, hdefault, hholds⟩) <;> cases hdefault
    exact hnow hholds
  · rintro (⟨sql, hdefault, -⟩ | ⟨-, content, hdefault, hholds⟩) <;> cases hdefault
    exact hnow hholds

/-- A text with the letters `.nextval` in it is kept as a default, and so is an expression that has them in quotes. -/
theorem exists_default_mistaken :
    let d : SchemaDialect := { policy := {}, strictness := .lenient, defaults := {} }
    let text : ColumnDefinition :=
      { name := "a", type := .text, default := some (.value (.text "x.nextval")), change := true }
    let expression : ColumnDefinition := { text with default := some (.raw "'x.nextval'") }
    let base := "alter table T modify column A text default 'x.nextval'"
    let statements := [base, "alter table T modify column A set not null"]
    (d.changeColumns { table := "t", columns := [text] } = .ok statements ∧
        d.CarriesDefault { table := "t", columns := [text] } text base ∧
          ¬ d.KeepsSequencesOnly { table := "t", columns := [text] } text base) ∧
      d.changeColumns { table := "t", columns := [expression] } = .ok statements ∧
        ¬ d.KeepsSequencesOnly { table := "t", columns := [expression] } expression base := by
  intro d text expression base statements
  have hholds : HoldsNextValue "x.nextval" := by decide +kernel
  have htext : text.MistakenForSequence := .inr ⟨by decide, _, rfl, hholds⟩
  have hexpression : expression.MistakenForSequence := by
    refine .inl ⟨_, rfl, by decide +kernel, ?_⟩
    -- in code the expression shows nothing but quotes
    rintro ⟨before, after, hcode, -⟩
    have hx : 'x' ∈ Template.codeChars .code "'x.nextval'".toList := by
      rw [hcode]
      exact List.mem_append_left _ (List.mem_append_right _ (by decide))
    exact absurd hx (by decide +kernel)
  have hbase : d.modification { table := "t", columns := [text] } text = .ok base := by decide +kernel
  have hbase' : d.modification { table := "t", columns := [expression] } expression = .ok base := by decide +kernel
  refine ⟨⟨by decide +kernel, ?_, fun h => ?_⟩, by decide +kernel, fun h => ?_⟩
  · exact (carriesDefault_iff hbase).2 (.inr ⟨by decide, _, rfl, hholds⟩)
  · exact (keepsSequencesOnly_iff_not_mistaken hbase).1 h htext
  · exact (keepsSequencesOnly_iff_not_mistaken hbase').1 h hexpression

end SchemaDialect

end WarehouseSql
