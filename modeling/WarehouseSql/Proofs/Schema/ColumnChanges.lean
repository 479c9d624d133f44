import WarehouseSql.Proofs.Schema.Statements

/-!
How columns are changed.  A change keeps some modifiers of a column (`ColumnDefinition.changeModifiers`), of which none
concerns null or increments; what is said about null follows from the column (`ColumnDefinition.RefusesNull`,
`ColumnDefinition.AllowsNull`).  **A change of columns first modifies each of them, then says of each whether it may
hold null, and then restarts numbers, always in the order of the columns; if one of them does not compile there is
nothing** (`SchemaDialect.changes_split`).
-/

namespace WarehouseSql

/-- What a modifier says about null. -/
def Modifier.nullable? : Modifier → Option Bool
  | .nullability nullable => some nullable
  | _ => none

/-! ### letters of words -/

lemma contains_eq_false {part cs : List Char} (letter : Char) (hpart : letter ∈ part) (hcs : letter ∉ cs) :
    Text.contains part cs = false := by
  rw [Bool.eq_false_iff]
  exact fun h => hcs ((contains_iff.1 h).subset hpart)

lemma not_mem_of_isSigned {number : List Char} (h : IsSigned number) : 'x' ∉ number := fun hx =>
  absurd (h.mem_numberChars _ hx) (by decide)

lemma not_mem_append {letter : Char} {a b : String} (ha : letter ∉ a.toList) (hb : letter ∉ b.toList) :
    letter ∉ (a ++ b).toList := by
  rw [String.toList_append, List.mem_append]
  exact not_or.2 ⟨ha, hb⟩

/-- A definition is a name, a type and some of the modifiers after one another. -/
lemma ColumnSql.write_eq (c : ColumnSql) (keep : Modifier → Bool) :
    c.write keep = c.name ++ " " ++ c.type ++ String.join ((c.modifiers.filter keep).map (" " ++ ·.sql)) := by
  rw [write, Text.intercalate_cons, List.map_cons, String.join_cons, List.map_map, String.append_assoc,
    String.append_assoc, String.append_assoc]
  rfl

namespace ColumnDefinition

variable (c : ColumnDefinition) (policy : Policy)

/-! ### what is said about a column -/

/-- Whether a column is said to refuse null: unless told otherwise, or, if its values are computed, if told so. -/
def RefusesNull : Prop :=
  (c.isGenerated = false ∧ c.nullable ≠ some true) ∨ (c.isGenerated = true ∧ c.nullable = some false)

/-- Whether a column is said to allow null: if told so, unless its values are computed. -/
def AllowsNull : Prop := c.isGenerated = false ∧ c.nullable = some true

instance : Decidable c.RefusesNull := by unfold RefusesNull; infer_instance

instance : Decidable c.AllowsNull := by unfold AllowsNull; infer_instance

/-- The default that a change keeps: one in which `.nextval` stands. -/
def keptDefault? : Option String :=
  (c.default.bind (defaultSql? c.type)).filter fun sql => Text.contains ".nextval".toList sql.toList

/-- The modifiers that a change of a column keeps, in their order. -/
def changeModifiers : List Modifier :=
  (c.charset.map .charset).toList
    ++ (c.collation.map .collation).toList
    ++ (c.virtualAs.map .virtualAs).toList
    ++ (c.storedAs.map .storedAs).toList
    ++ ((positive c.srid).map .srid).toList
    ++ (c.keptDefault?.map .default).toList
    ++ (c.comment.map .comment).toList
    ++ (c.after.map fun column => .after (policy.columnName column)).toList
    ++ (if c.first then [.first] else [])

/-! ### what a change keeps -/

lemma not_mem_withPrecision {type : String} (h : 'x' ∉ type.toList) : 'x' ∉ (c.withPrecision type).toList := by
  unfold withPrecision
  split
  · have hnumber : ∀ n, 'x' ∉ (countText n).toList := fun _ => not_mem_of_isSigned (isPlain_integerText _).isSigned
    exact not_mem_append (not_mem_append (not_mem_append h (by decide)) (hnumber _)) (by decide)
  · exact h

/-- What makes a column follow the current time takes no value of a sequence. -/
lemma exists_of_mem_currentModifiers {modifier : Modifier} (h : modifier ∈ c.currentModifiers) :
    ∃ sql, modifier = .current sql ∧ 'x' ∉ sql.toList :=
  currentModifiers_induction (P := fun sql => 'x' ∉ sql.toList) (by decide) not_mem_append (by decide) (by decide)
    (by decide) (by decide) (c.not_mem_withPrecision (by decide)) modifier h

lemma filter_optional {α : Type} {keep : Modifier → Bool} {modifier : α → Modifier}
    (h : ∀ a, keep (modifier a) = true) (said : Option α) :
    (said.map modifier).toList.filter keep = (said.map modifier).toList := by
  cases said with
  | none => rfl
  | some a => exact List.filter_cons_of_pos (h a)

lemma filter_currentModifiers : c.currentModifiers.filter ColumnSql.keptInChange = [] := by
  refine List.filter_eq_nil_iff.2 fun modifier hmodifier => ?_
  obtain ⟨sql, rfl, hsql⟩ := c.exists_of_mem_currentModifiers hmodifier
  rw [ColumnSql.keptInChange, contains_eq_false 'x' (by decide) hsql]
  exact Bool.false_ne_true

lemma filter_nullability : c.nullability.filter ColumnSql.keptInChange = [] := by
  unfold nullability
  split <;> rfl

lemma filter_default (said : Option String) :
    (said.map Modifier.default).toList.filter ColumnSql.keptInChange =
      ((said.filter fun sql => Text.contains ".nextval".toList sql.toList).map .default).toList := by
  cases said with
  | none => rfl
  | some sql =>
    rw [Option.filter_some, Option.map_some, Option.toList_some, List.filter_singleton, ColumnSql.keptInChange]
    cases Text.contains ".nextval".toList sql.toList <;> rfl

/-- **A change keeps the modifiers that concern neither null nor increments, and no default but one in which `.nextval`
stands.** -/
lemma filter_modifiers : (c.modifiers policy).filter ColumnSql.keptInChange = c.changeModifiers policy := by
  have hincrement : (if isSerial c.type && c.autoIncrement then [Modifier.increment] else []).filter
      ColumnSql.keptInChange = [] := by
    split_ifs <;> rfl
  have hfirst : (if c.first then [Modifier.first] else []).filter ColumnSql.keptInChange =
      if c.first then [.first] else [] := by
    split_ifs <;> rfl
  simp only [modifiers, changeModifiers, keptDefault?, List.filter_append, filter_currentModifiers, filter_nullability,
    filter_default, hincrement, hfirst]
  rw [filter_optional fun _ => rfl, filter_optional fun _ => rfl, filter_optional fun _ => rfl,
    filter_optional fun _ => rfl, filter_optional fun _ => rfl, filter_optional fun _ => rfl,
    filter_optional fun _ => rfl]
  simp only [List.nil_append, List.append_nil]

lemma clean_changeModifiers :
    (∀ nullable, .nullability nullable ∉ c.changeModifiers policy) ∧ .increment ∉ c.changeModifiers policy := by
  rw [← filter_modifiers]
  constructor
  · intro nullable h
    exact absurd (List.mem_filter.1 h).2 Bool.false_ne_true
  · intro h
    exact absurd (List.mem_filter.1 h).2 Bool.false_ne_true

/-! ### what is said about null -/

lemma compile_eq_ok_iff {compiled : ColumnSql} :
    c.compile policy = .ok compiled ↔
      ∃ type, c.sqlType = .ok type ∧ compiled = ⟨policy.identifier c.name, type, c.modifiers policy⟩ := by
  refine Compiled.bind_eq_ok.trans (exists_congr fun type => and_congr_right fun _ => ?_)
  exact ⟨fun h => (Except.ok.inj h).symm, fun h => congrArg _ h.symm⟩

lemma findSome?_optional {α : Type} {modifier : α → Modifier} (h : ∀ a, (modifier a).nullable? = none)
    (said : Option α) : (said.map modifier).toList.findSome? Modifier.nullable? = none := by
  cases said with
  | none => rfl
  | some a => rw [Option.map_some, Option.toList_some, List.findSome?_singleton, h a]

lemma findSome?_nullability : c.nullability.findSome? Modifier.nullable? =
    if c.RefusesNull then some false else if c.AllowsNull then some true else none := by
  cases hgenerated : c.isGenerated <;> rcases hnullable : c.nullable with _ | _ | _ <;>
    simp [nullability, RefusesNull, AllowsNull, hgenerated, hnullable, Modifier.nullable?]

/-- Of all modifiers at most one tells about null, and it tells what is said of the column. -/
lemma nullable?_eq {compiled : ColumnSql} (h : c.compile policy = .ok compiled) :
    compiled.nullable? = if c.RefusesNull then some false else if c.AllowsNull then some true else none := by
  obtain ⟨type, -, rfl⟩ := (c.compile_eq_ok_iff policy).1 h
  have hnullable : ∀ compiled : ColumnSql, compiled.nullable? = compiled.modifiers.findSome? Modifier.nullable? :=
    fun _ => rfl
  have hcurrent : c.currentModifiers.findSome? Modifier.nullable? = none := by
    refine List.findSome?_eq_none_iff.2 fun modifier hmodifier => ?_
    obtain ⟨sql, rfl, -⟩ := c.exists_of_mem_currentModifiers hmodifier
    rfl
  have hincrement : (if isSerial c.type && c.autoIncrement then [Modifier.increment] else []).findSome?
      Modifier.nullable? = none := by
    split_ifs <;> rfl
  have hfirst : (if c.first then [Modifier.first] else []).findSome? Modifier.nullable? = none := by
    split_ifs <;> rfl
  rw [hnullable, ← findSome?_nullability]
  simp only [modifiers, List.findSome?_append, hcurrent, hincrement, hfirst]
  rw [findSome?_optional fun _ => rfl, findSome?_optional fun _ => rfl, findSome?_optional fun _ => rfl,
    findSome?_optional fun _ => rfl, findSome?_optional fun _ => rfl, findSome?_optional fun _ => rfl,
    findSome?_optional fun _ => rfl, findSome?_optional fun _ => rfl]
  simp only [Option.none_or, Option.or_none]

end ColumnDefinition

/-! ### changes of columns -/

/-- The changes of columns come before all other commands. -/
lemma Blueprint.allCommands_of_changed {b : Blueprint} {c : ColumnDefinition} (h : c ∈ b.changedColumns) :
    ∃ others, b.allCommands = .change :: others := by
  have hsome : b.changedColumns.isEmpty = false := List.isEmpty_eq_false_iff.2 (List.ne_nil_of_mem h)
  rw [allCommands, hsome, if_neg Bool.false_ne_true, List.append_assoc, List.append_assoc]
  exact ⟨_, rfl⟩

namespace SchemaDialect

variable (d : SchemaDialect) (b : Blueprint)

/-- The statement with which the change of a column begins. -/
def modification (c : ColumnDefinition) : Compiled String := do
  let compiled ← c.compile d.policy
  return d.alter b ("modify column " ++ compiled.changeDefinition)

/-- A statement modifies a column: it gives the name, the type and modifiers of the column in their order, none of which
concerns null or increments, and does not depend on what the column says about these. -/
structure Modifies (c : ColumnDefinition) (sql : String) : Prop where
  written : ∃ type, c.sqlType = .ok type ∧ sql = d.alter b ("modify column " ++
    (d.policy.identifier c.name ++ " " ++ type ++ String.join ((c.changeModifiers d.policy).map (" " ++ ·.sql))))
  ordered : (c.changeModifiers d.policy).Sublist (c.modifiers d.policy)
  clean : (∀ nullable, .nullability nullable ∉ c.changeModifiers d.policy) ∧ .increment ∉ c.changeModifiers d.policy
  unaffected : ∀ nullable autoIncrement startingValue,
    d.modification b { c with nullable, autoIncrement, startingValue } = .ok sql

/-- A statement says of a column what the column says about null. -/
def TellsNull (c : ColumnDefinition) (sql : String) : Prop :=
  (c.RefusesNull ∧ sql = d.alter b ("modify column " ++ d.policy.identifier c.name ++ " set not null")) ∨
  (c.AllowsNull ∧ sql = d.alter b ("modify column " ++ d.policy.identifier c.name ++ " drop not null"))

/-- A statement restarts the numbers of a column. -/
def Restarts (c : ColumnDefinition) (sql : String) : Prop :=
  ∃ start, c.startingValue = some start ∧ sql = d.alter b ("autoincrement start " ++ integerText start.toNat)

/-- The statements of a change of columns: first each column is modified, then each of which something is said about
null is told about, then the numbers of each that counts up from a given start are restarted. -/
def Changes (statements : List String) : Prop :=
  ∃ bases nulls restarts, statements = bases ++ nulls ++ restarts ∧
    List.Forall₂ (d.Modifies b) b.changedColumns bases ∧
    List.Forall₂ (d.TellsNull b) (b.changedColumns.filter fun c => c.RefusesNull ∨ c.AllowsNull) nulls ∧
    List.Forall₂ (d.Restarts b) (b.changedColumns.filter fun c => c.autoIncrement && c.startingValue.isSome) restarts

variable {d b}

lemma modification_eq_ok_iff {c : ColumnDefinition} {sql : String} :
    d.modification b c = .ok sql ↔ ∃ type, c.sqlType = .ok type ∧
      sql = d.alter b ("modify column " ++ (d.policy.identifier c.name ++ " " ++ type
        ++ String.join ((c.changeModifiers d.policy).map (" " ++ ·.sql)))) := by
  have hwrite : ∀ type : String,
      (ColumnSql.mk (d.policy.identifier c.name) type (c.modifiers d.policy)).changeDefinition =
        d.policy.identifier c.name ++ " " ++ type ++ String.join ((c.changeModifiers d.policy).map (" " ++ ·.sql)) := by
    intro type
    rw [ColumnSql.changeDefinition, ColumnSql.write_eq, ColumnDefinition.filter_modifiers]
  rw [modification, Compiled.bind_eq_ok]
  constructor
  · rintro ⟨compiled, hcompiled, h⟩
    obtain ⟨type, htype, rfl⟩ := (c.compile_eq_ok_iff d.policy).1 hcompiled
    exact ⟨type, htype, by rw [← hwrite]; exact (Except.ok.inj h).symm⟩
  · rintro ⟨type, htype, rfl⟩
    exact ⟨_, (c.compile_eq_ok_iff d.policy).2 ⟨type, htype, rfl⟩, by rw [hwrite]; rfl⟩

/-- The statement that modifies a column leaves out what the column says about null and increments. -/
lemma modifies {c : ColumnDefinition} {sql : String} (h : d.modification b c = .ok sql) : d.Modifies b c sql := by
  obtain ⟨type, htype, hsql⟩ := modification_eq_ok_iff.1 h
  refine ⟨⟨type, htype, hsql⟩, ?_, c.clean_changeModifiers d.policy, fun nullable autoIncrement startingValue => ?_⟩
  · rw [← c.filter_modifiers]
    exact List.filter_sublist
  · exact modification_eq_ok_iff.2 ⟨type, htype, hsql⟩

/-- Something is said about null exactly where the column says something. -/
lemma rel_nullabilityChange {c : ColumnDefinition} {compiled : ColumnSql} (h : c.compile d.policy = .ok compiled) :
    Option.Rel (d.TellsNull b) (Option.guard (fun c => c.RefusesNull ∨ c.AllowsNull) c)
      (d.nullabilityChange b compiled) := by
  obtain ⟨type, -, hcompiled⟩ := (c.compile_eq_ok_iff d.policy).1 h
  have hname : compiled.name = d.policy.identifier c.name := by rw [hcompiled]
  rw [nullabilityChange, c.nullable?_eq d.policy h, hname]
  by_cases hrefuses : c.RefusesNull
  · rw [if_pos hrefuses, Option.guard_pos (by simpa using .inl hrefuses)]
    exact .some (.inl ⟨hrefuses, rfl⟩)
  by_cases hallows : c.AllowsNull
  · rw [if_neg hrefuses, if_pos hallows, Option.guard_pos (by simpa using .inr hallows)]
    exact .some (.inr ⟨hallows, rfl⟩)
  · rw [if_neg hrefuses, if_neg hallows, Option.guard_eq_none_iff.2 (by simpa using ⟨hrefuses, hallows⟩)]
    exact .none

/-- Numbers are restarted exactly where a column counts up from a given start. -/
lemma rel_restart (c : ColumnDefinition) :
    Option.Rel (d.Restarts b) (Option.guard (fun c => c.autoIncrement && c.startingValue.isSome) c)
      (d.restart b c) := by
  cases hcounts : c.autoIncrement <;> cases hstart : c.startingValue with
  | none => simp [restart, hcounts, hstart, Option.guard]
  | some start => simp [restart, hcounts, hstart, Option.guard, Restarts]

/-- The change of columns that compile begins with their modifications. -/
lemma forall₂_modification {columns : List ColumnSql}
    (h : List.Forall₂ (fun c compiled => c.compile d.policy = .ok compiled) b.changedColumns columns) :
    List.Forall₂ (fun c sql => d.modification b c = .ok sql) b.changedColumns
      (columns.map fun compiled => d.alter b ("modify column " ++ compiled.changeDefinition)) := by
  refine List.forall₂_map_right_iff.2 (h.imp fun c compiled hcompiled => ?_)
  exact Compiled.bind_eq_ok.2 ⟨compiled, hcompiled, rfl⟩

lemma changes {columns : List ColumnSql}
    (h : List.Forall₂ (fun c compiled => c.compile d.policy = .ok compiled) b.changedColumns columns) :
    ∃ statements, d.changeColumns b = .ok statements ∧ d.Changes b statements := by
  refine ⟨_, Compiled.bind_eq_ok.2 ⟨columns, Compiled.mapM_eq_ok_iff.2 h, rfl⟩, _, _, _, rfl, ?_, ?_, ?_⟩
  · exact (forall₂_modification h).imp fun _ _ hmodification => modifies hmodification
  -- choosing columns and writing what is said of each goes through both lists side by side
  · rw [← List.filterMap_eq_filter]
    exact List.rel_filterMap (fun _ _ hcompiled => rel_nullabilityChange hcompiled) h
  · rw [← List.filterMap_eq_filter]
    exact List.rel_filterMap (R := Eq) (fun c _ hc => hc ▸ rel_restart c) (List.forall₂_refl _)

/-- **A change of columns first modifies each of them, then says of each what it says about null, and then restarts
numbers; if one of the columns does not compile there is nothing, from the whole blueprint either.** -/
theorem changes_split (d : SchemaDialect) (b : Blueprint) :
    ((∀ c ∈ b.changedColumns, ∃ compiled, c.compile d.policy = .ok compiled) →
      ∃ statements, d.changeColumns b = .ok statements ∧ d.Changes b statements) ∧
    ∀ c ∈ b.changedColumns, ∀ error, c.compile d.policy = .error error →
      ∃ error, d.changeColumns b = .error error ∧ d.statements b = .error error := by
  constructor
  · intro h
    obtain ⟨columns, hcolumns⟩ := Compiled.exists_mapM_eq_ok_iff.2 h
    exact changes (Compiled.mapM_eq_ok_iff.1 hcolumns)
  · intro c hc error herror
    cases hchange : d.changeColumns b with
    | ok statements =>
      obtain ⟨columns, hcolumns, -⟩ := Compiled.bind_eq_ok.1 hchange
      obtain ⟨compiled, hcompiled⟩ := Compiled.exists_mapM_eq_ok_iff.1 ⟨columns, hcolumns⟩ c hc
      exact nomatch herror.symm.trans hcompiled
    | error first =>
      obtain ⟨others, hothers⟩ := Blueprint.allCommands_of_changed hc
      refine ⟨first, rfl, ?_⟩
      rw [statements, hothers, commands, command, hchange]
      rfl

/-- Rooms whose number counts on from a start, with a note that may be missing, two computed columns and a new one. -/
def changedRooms : Blueprint :=
  { table := "room"
    columns := [
      { name := "id", type := .bigInteger, autoIncrement := true, startingValue := some 1000, change := true,
        default := some (.raw "room_seq.nextval") },
      { name := "note", type := .text, nullable := some true, comment := some "is not null", change := true,
        default := some (.value (.text "none")) },
      { name := "lettable", type := .boolean },
      { name := "area", type := .float, nullable := some true, virtualAs := some "width * depth", change := true },
      { name := "volume", type := .float, nullable := some false, storedAs := some "area * height", change := true }] }

/-- The dialect that refuses what the warehouse lacks, with names as they are and a prefix for tables. -/
def hotel : SchemaDialect := { policy := ⟨true, "hotel_"⟩, strictness := .strict, defaults := {} }

def changedRoomsSql : List String :=
  ["alter table \"hotel_room\" modify column \"id\" bigint default room_seq.nextval",
    "alter table \"hotel_room\" modify column \"note\" text comment 'is not null'",
    "alter table \"hotel_room\" modify column \"area\" float as (width * depth)",
    "alter table \"hotel_room\" modify column \"volume\" float as (area * height) stored",
    "alter table \"hotel_room\" modify column \"id\" set not null",
    "alter table \"hotel_room\" modify column \"note\" drop not null",
    "alter table \"hotel_room\" modify column \"volume\" set not null",
    "alter table \"hotel_room\" autoincrement start 1000"]

/-- Rooms of which one column cannot be compiled. -/
def brokenRooms : Blueprint :=
  { table := "room"
    columns := [
      { name := "note", type := .text, change := true },
      { name := "area", type := .computed, change := true }] }

theorem changes_split_rooms :
    (hotel.changeColumns changedRooms = .ok changedRoomsSql ∧ hotel.Changes changedRooms changedRoomsSql) ∧
      ∃ error, hotel.changeColumns brokenRooms = .error error ∧ hotel.statements brokenRooms = .error error := by
  have hsql : hotel.changeColumns changedRooms = .ok changedRoomsSql := by decide +kernel
  obtain ⟨columns, hcolumns, -⟩ := Compiled.bind_eq_ok.1 hsql
  obtain ⟨statements, hstatements, hchanges⟩ :=
    (changes_split hotel changedRooms).1 (Compiled.exists_mapM_eq_ok_iff.1 ⟨columns, hcolumns⟩)
  obtain rfl : statements = changedRoomsSql := Except.ok.inj (hstatements.symm.trans hsql)
  refine ⟨⟨hsql, hchanges⟩, ?_⟩
  exact (changes_split hotel brokenRooms).2 { name := "area", type := .computed, change := true } (by decide) _ rfl

end SchemaDialect

end WarehouseSql
