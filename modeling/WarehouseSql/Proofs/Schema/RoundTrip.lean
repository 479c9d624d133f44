import WarehouseSql.Proofs.Value.RoundTrip
import WarehouseSql.Schema.Compile
import WarehouseSql.Schema.Json

/-!
Descriptions of schema changes read back.  A default of null and no default are written alike, so a blueprint reads
back without its defaults of null (`Blueprint.ofJson?_toJson`); but a default of null is no modifier of its column
(`ColumnDefinition.compile_nullDropped`), and so **what is read back compiles to the same statements, or is refused
with the same error** (`Blueprint.compiles_alike_read_back`).  A command is found by its name wherever that stands
among its members.
-/

namespace WarehouseSql

open Json (Arranges HasMembers)

/-! ### defaults of null -/

namespace ColumnDefinition

/-- Whether the default of a column is no infinite double and no double that is not a number. -/
def isFinite (c : ColumnDefinition) : Bool := c.default.all Operand.isFinite

lemma nodup_fieldNames : fieldNames.Nodup := by
  simp [fieldNames]

/-- The column without its default if that is null. -/
def nullDropped (c : ColumnDefinition) : ColumnDefinition :=
  { c with default := if c.default = some (.value .null) then none else c.default }

lemma nullDropped_of_ne {c : ColumnDefinition} (h : c.default ≠ some (.value .null)) : c.nullDropped = c := by
  rw [nullDropped, if_neg h]

/-- A default of null is no modifier. -/
lemma compile_nullDropped (c : ColumnDefinition) (policy : Policy) :
    c.nullDropped.compile policy = c.compile policy := by
  have hmodifiers : c.nullDropped.modifiers policy = c.modifiers policy := by
    by_cases h : c.default = some (.value .null)
    · have hnone : c.nullDropped = { c with default := none } := by rw [nullDropped, if_pos h]
      have hsql : c.default.bind (defaultSql? c.type) = none := by rw [h]; rfl
      rw [hnone, modifiers, modifiers, hsql]
      rfl
    · rw [nullDropped_of_ne h]
  rw [compile, hmodifiers]
  rfl

end ColumnDefinition

namespace Blueprint

def isFinite (b : Blueprint) : Bool := b.columns.all ColumnDefinition.isFinite

def nullsDropped (b : Blueprint) : Blueprint := { b with columns := b.columns.map ColumnDefinition.nullDropped }

lemma nullsDropped_of_ne {b : Blueprint} (h : ∀ c ∈ b.columns, c.default ≠ some (.value .null)) :
    b.nullsDropped = b := by
  have hcolumns : b.columns.map ColumnDefinition.nullDropped = b.columns := by
    rw [List.map_congr_left fun c hc => ColumnDefinition.nullDropped_of_ne (h c hc), List.map_id']
  rw [nullsDropped, hcolumns]

lemma addedColumns_nullsDropped (b : Blueprint) :
    b.nullsDropped.addedColumns = b.addedColumns.map ColumnDefinition.nullDropped := List.filter_map

lemma changedColumns_nullsDropped (b : Blueprint) :
    b.nullsDropped.changedColumns = b.changedColumns.map ColumnDefinition.nullDropped := List.filter_map

lemma allCommands_nullsDropped (b : Blueprint) : b.nullsDropped.allCommands = b.allCommands := by
  rw [allCommands, addedColumns_nullsDropped, changedColumns_nullsDropped, List.isEmpty_map, List.isEmpty_map]
  simp only [nullsDropped, List.flatMap_map]
  rfl

end Blueprint

namespace SchemaDialect

open ColumnDefinition (compile_nullDropped)

variable (d : SchemaDialect) (b : Blueprint)

lemma create_nullsDropped : d.create b.nullsDropped = d.create b := by
  simp only [create, b.addedColumns_nullsDropped, List.mapM_map, Function.comp_def, compile_nullDropped]
  rfl

lemma addColumns_nullsDropped : d.addColumns b.nullsDropped = d.addColumns b := by
  simp only [addColumns, b.addedColumns_nullsDropped, List.mapM_map, Function.comp_def, compile_nullDropped]
  rfl

lemma changeColumns_nullsDropped : d.changeColumns b.nullsDropped = d.changeColumns b := by
  simp only [changeColumns, b.changedColumns_nullsDropped, List.mapM_map, List.filterMap_map, Function.comp_def,
    compile_nullDropped]
  rfl

lemma command_nullsDropped (c : Command) : d.command b.nullsDropped c = d.command b c := by
  cases c with
  | create => rw [command, command, create_nullsDropped]
  | add => exact d.addColumns_nullsDropped b
  | change => exact d.changeColumns_nullsDropped b
  | _ => rfl

lemma commands_nullsDropped (cs : List Command) : d.commands b.nullsDropped cs = d.commands b cs := by
  induction cs with
  | nil => rfl
  | cons c cs ih => rw [commands, commands, command_nullsDropped, ih]

/-- **Defaults of null leave no trace** in what a blueprint compiles to, nor in the error that refuses it. -/
theorem statements_nullsDropped : d.statements b.nullsDropped = d.statements b := by
  rw [statements, statements, b.allCommands_nullsDropped, commands_nullsDropped]

end SchemaDialect

/-! ### columns -/

section

variable {arrange : Json → Json} (h : Arranges arrange)

include h

lemma ColumnType.ofJson?_name (type : ColumnType) : ofJson? (arrange (.text type.name)) = some type := by
  rw [h.text]
  cases type <;> rfl

namespace ColumnDefinition

/-- A default of null reads back as none. -/
lemma orNull?_default {c : ColumnDefinition} (hfinite : c.isFinite = true) :
    Json.orNull? Operand.ofJson? (arrange (.ofOption Operand.toJson c.default)) = some c.nullDropped.default := by
  rw [isFinite] at hfinite
  rw [nullDropped]
  cases hdefault : c.default with
  | none => rw [Json.ofOption, h.null]; rfl
  | some o =>
    rw [hdefault] at hfinite
    by_cases hnull : o = .value .null
    · subst hnull
      have htoJson : (Operand.value .null).toJson = .null := rfl
      rw [Json.ofOption, htoJson, h.null]
      rfl
    · have hsome : some o ≠ some (.value .null) := fun heq => hnull (Option.some.inj heq)
      rw [if_neg hsome]
      exact Json.orNull?_eq_some (Operand.ofJson?_toJson h hfinite) hsome.symm

/-- A column reads back without a default of null. -/
lemma ofJson?_toJson {c : ColumnDefinition} (hfinite : c.isFinite = true) :
    ofJson? (arrange c.toJson) = some c.nullDropped := by
  have hflag := h.orNull?_ofOption (o := c.nullable) (fun flag _ => h.asBool?_bool flag) rfl
  have hdefault := orNull?_default h hfinite
  have hmembers : HasMembers arrange _ (arrange c.toJson) := h.object _ nodup_fieldNames
  obtain ⟨fields, hfields, hlookup⟩ := hmembers.exists_fields fieldNames
  rw [ofJson?, hfields, Option.bind_eq_bind, Option.bind_some,
    Fields.required_bind (hlookup "name") (h.asText?_text _),
    Fields.required_bind (hlookup "type") (ColumnType.ofJson?_name h _),
    Fields.nullable_bind (hlookup "length") (h.orNull?_ofUInt32 _),
    Fields.nullable_bind (hlookup "total") (h.orNull?_ofUInt32 _),
    Fields.nullable_bind (hlookup "places") (h.orNull?_ofUInt32 _),
    Fields.nullable_bind (hlookup "precision") (h.orNull?_ofUInt32 _),
    Fields.withDefault_bind (hlookup "allowed") (h.asTexts?_ofTexts _),
    Fields.nullable_bind (hlookup "nullable") hflag, Fields.nullable_bind (hlookup "default") hdefault,
    Fields.withDefault_bind (hlookup "auto_increment") (h.asBool?_bool _),
    Fields.nullable_bind (hlookup "starting_value") (h.orNull?_ofUInt64 _),
    Fields.nullable_bind (hlookup "charset") (h.orNull?_text _),
    Fields.nullable_bind (hlookup "collation") (h.orNull?_text _),
    Fields.nullable_bind (hlookup "comment") (h.orNull?_text _),
    Fields.nullable_bind (hlookup "after") (h.orNull?_text _),
    Fields.withDefault_bind (hlookup "first") (h.asBool?_bool _),
    Fields.nullable_bind (hlookup "virtual_as") (h.orNull?_text _),
    Fields.nullable_bind (hlookup "stored_as") (h.orNull?_text _),
    Fields.nullable_bind (hlookup "srid") (h.orNull?_ofUInt32 _),
    Fields.withDefault_bind (hlookup "use_current") (h.asBool?_bool _),
    Fields.withDefault_bind (hlookup "use_current_on_update") (h.asBool?_bool _),
    Fields.withDefault_bind (hlookup "change") (h.asBool?_bool _),
    Fields.withDefault_bind (hlookup "primary") (h.asBool?_bool _),
    Fields.withDefault_bind (hlookup "unique") (h.asBool?_bool _),
    Fields.withDefault_bind (hlookup "index") (h.asBool?_bool _)]
  rfl

end ColumnDefinition

/-! ### commands -/

section

variable {contents : Json}

omit h in
lemma Command.bare?_of_hasMembers {members : List (String × Json)} (hcontents : HasMembers arrange members contents)
    (c : Command) : bare? c contents = some c := by
  obtain ⟨-, arranged, rfl, -⟩ := hcontents
  rfl

omit h in
lemma Command.onlyField?_of_hasMembers {α : Type} {name : String} {j : Json} {read : Json → Option α} {a : α}
    (hcontents : HasMembers arrange [(name, j)] contents) (hread : read (arrange j) = some a) :
    onlyField? name read contents = some a := by
  obtain ⟨fields, hfields, hlookup⟩ := hcontents.exists_fields [name]
  rw [onlyField?, hfields, Option.bind_eq_bind, Option.bind_some]
  refine Fields.required_of_lookup ?_ hread
  rw [hlookup, List.lookup_cons_self, Option.map_some]

lemma Command.renaming?_of_hasMembers {old new : String}
    (hcontents : HasMembers arrange [("from", .text old), ("to", .text new)] contents) :
    renaming? contents = some (old, new) := by
  obtain ⟨fields, hfields, hlookup⟩ := hcontents.exists_fields ["from", "to"]
  rw [renaming?, hfields, Option.bind_eq_bind, Option.bind_some,
    Fields.required_bind (hlookup "from") (h.asText?_text _), Fields.required_bind (hlookup "to") (h.asText?_text _)]

lemma Key.ofContents?_members {key : Key} (hcontents : HasMembers arrange key.members contents) :
    ofContents? contents = some key := by
  obtain ⟨fields, hfields, hlookup⟩ := hcontents.exists_fields ["index", "columns", "algorithm"]
  rw [ofContents?, hfields, Option.bind_eq_bind, Option.bind_some,
    Fields.nullable_bind (hlookup "index") (h.orNull?_text _),
    Fields.required_bind (hlookup "columns") (h.asTexts?_ofTexts _),
    Fields.nullable_bind (hlookup "algorithm") (h.orNull?_text _)]

lemma ForeignKey.ofContents?_members {key : ForeignKey} (hcontents : HasMembers arrange key.members contents) :
    ofContents? contents = some key := by
  obtain ⟨fields, hfields, hlookup⟩ := hcontents.exists_fields
    ["index", "columns", "on", "references", "on_delete", "on_update"]
  rw [ofContents?, hfields, Option.bind_eq_bind, Option.bind_some,
    Fields.nullable_bind (hlookup "index") (h.orNull?_text _),
    Fields.required_bind (hlookup "columns") (h.asTexts?_ofTexts _),
    Fields.required_bind (hlookup "on") (h.asText?_text _),
    Fields.required_bind (hlookup "references") (h.asTexts?_ofTexts _),
    Fields.nullable_bind (hlookup "on_delete") (h.orNull?_text _),
    Fields.nullable_bind (hlookup "on_update") (h.orNull?_text _)]

end

namespace Command

/-- The name under which a command is written. -/
def name : Command → String
  | create => "create"
  | add => "add"
  | change => "change"
  | dropColumns _ => "drop_column"
  | renameColumn _ _ => "rename_column"
  | addKey kind _ => kind.commandName
  | addForeign _ => "foreign"
  | dropPrimary => "drop_primary"
  | dropUnique _ => "drop_unique"
  | dropIndex _ => "drop_index"
  | dropSpatial _ => "drop_spatial_index"
  | dropForeign _ => "drop_foreign"
  | renameIndex _ _ => "rename_index"
  | drop => "drop"
  | dropIfExists => "drop_if_exists"
  | rename _ => "rename"

/-- The members of a command beside its name. -/
def members : Command → List (String × Json)
  | dropColumns columns => [("columns", .ofTexts columns)]
  | renameColumn old new => [("from", .text old), ("to", .text new)]
  | addKey _ key => key.members
  | addForeign key => key.members
  | dropUnique name => [("index", .text name)]
  | dropIndex name => [("index", .text name)]
  | dropSpatial name => [("index", .text name)]
  | dropForeign name => [("index", .text name)]
  | renameIndex old new => [("from", .text old), ("to", .text new)]
  | rename name => [("to", .text name)]
  | _ => []

omit h in
lemma toJson_eq (c : Command) : c.toJson = .object (("name", .text c.name) :: c.members) := by
  cases c <;> rfl

omit h in
lemma nodup_members (c : Command) : ((("name", Json.text c.name) :: c.members).map Prod.fst).Nodup := by
  cases c <;> simp [members, Key.members, ForeignKey.members]

omit h in
lemma isReadable_toJson (c : Command) : c.toJson.isReadable = true := by
  rw [toJson_eq, Json.isReadable_object, List.forall_mem_cons]
  have htext (text : Option String) : (Json.ofOption .text text).isReadable = true :=
    Json.isReadable_ofOption fun _ _ => Json.isReadable_text _
  cases c <;> simp [members, Key.members, ForeignKey.members, Json.isReadable_ofTexts, htext]

/-- A command reads back: its kind is the one of its name. -/
lemma ofJson?_toJson (c : Command) : ofJson? (arrange c.toJson) = some c := by
  have hreadable : (arrange c.toJson).isReadable = true := h.isReadable _ c.isReadable_toJson
  rw [toJson_eq] at hreadable ⊢
  obtain ⟨contents, htagged, hcontents⟩ := (h.object _ c.nodup_members).exists_tagged (h.text _) hreadable
  rw [ofJson?, htagged, Option.bind_eq_bind, Option.bind_some]
  cases c with
  | create => exact bare?_of_hasMembers hcontents _
  | add => exact bare?_of_hasMembers hcontents _
  | change => exact bare?_of_hasMembers hcontents _
  | dropColumns columns =>
    exact congrArg (Option.map dropColumns) (onlyField?_of_hasMembers hcontents (h.asTexts?_ofTexts columns))
  | renameColumn old new =>
    exact congrArg (Option.map fun names => renameColumn names.1 names.2) (renaming?_of_hasMembers h hcontents)
  | addKey kind key =>
    have hkey : Key.ofContents? contents = some key := Key.ofContents?_members h hcontents
    cases kind <;> exact congrArg (Option.map (addKey _)) hkey
  | addForeign key => exact congrArg (Option.map addForeign) (ForeignKey.ofContents?_members h hcontents)
  | dropPrimary => exact bare?_of_hasMembers hcontents _
  | dropUnique name =>
    exact congrArg (Option.map dropUnique) (onlyField?_of_hasMembers hcontents (h.asText?_text name))
  | dropIndex name =>
    exact congrArg (Option.map dropIndex) (onlyField?_of_hasMembers hcontents (h.asText?_text name))
  | dropSpatial name =>
    exact congrArg (Option.map dropSpatial) (onlyField?_of_hasMembers hcontents (h.asText?_text name))
  | dropForeign name =>
    exact congrArg (Option.map dropForeign) (onlyField?_of_hasMembers hcontents (h.asText?_text name))
  | renameIndex old new =>
    exact congrArg (Option.map fun names => renameIndex names.1 names.2) (renaming?_of_hasMembers h hcontents)
  | drop => exact bare?_of_hasMembers hcontents _
  | dropIfExists => exact bare?_of_hasMembers hcontents _
  | rename name => exact congrArg (Option.map rename) (onlyField?_of_hasMembers hcontents (h.asText?_text name))

end Command

/-! ### blueprints -/

/-- **A blueprint reads back without its defaults of null**, however its members are arranged. -/
theorem Blueprint.ofJson?_toJson {b : Blueprint} (hfinite : b.isFinite = true) :
    ofJson? (arrange b.toJson) = some b.nullsDropped := by
  have hcolumns : (arrange (.list (b.columns.map ColumnDefinition.toJson))).asList? ColumnDefinition.ofJson? =
      some (b.columns.map ColumnDefinition.nullDropped) :=
    h.asList?_map_map b.columns fun c hc => c.ofJson?_toJson h (List.all_eq_true.1 hfinite c hc)
  have hcommands := h.asList?_map b.commands fun c _ => c.ofJson?_toJson h
  have hnodup : fieldNames.Nodup := by simp [fieldNames]
  have hmembers : HasMembers arrange _ (arrange b.toJson) := h.object _ hnodup
  obtain ⟨fields, hfields, hlookup⟩ := hmembers.exists_fields fieldNames
  rw [ofJson?, hfields, Option.bind_eq_bind, Option.bind_some,
    Fields.withDefault_bind (hlookup "table") (h.asText?_text _),
    Fields.withDefault_bind (hlookup "temporary") (h.asBool?_bool _),
    Fields.nullable_bind (hlookup "charset") (h.orNull?_text _),
    Fields.nullable_bind (hlookup "collation") (h.orNull?_text _),
    Fields.nullable_bind (hlookup "engine") (h.orNull?_text _), Fields.withDefault_bind (hlookup "columns") hcolumns,
    Fields.withDefault_bind (hlookup "commands") hcommands]
  rfl

end

/-- **What is read back from a blueprint compiles to the same statements, or is refused with the same error**, in
every dialect; and it is the blueprint itself unless a column has a default of null. -/
theorem Blueprint.compiles_alike_read_back (b : Blueprint) (hfinite : b.isFinite = true) :
    ∃ decoded, Blueprint.ofJson? b.toJson = some decoded ∧ Blueprint.ofJson? b.toJson.normal = some decoded ∧
      (∀ d : SchemaDialect, d.statements decoded = d.statements b) ∧
        ((∀ c ∈ b.columns, c.default ≠ some (.value .null)) → decoded = b) :=
  ⟨b.nullsDropped, ofJson?_toJson Json.arranges_id hfinite, ofJson?_toJson Json.arranges_normal hfinite,
    fun d => d.statements_nullsDropped b, nullsDropped_of_ne⟩

/-- Letters with a column whose default is null, and commands of several kinds. -/
def letters : Blueprint :=
  { table := "letter"
    engine := some "InnoDB"
    columns := [
      { name := "id", type := .bigInteger, autoIncrement := true, startingValue := some 100, primary := true },
      { name := "kind", type := .enum, allowed := ["note", "parcel"], default := some (.value (.text "note")) },
      { name := "weight", type := .double, default := some (.value .null), nullable := some true },
      { name := "sent", type := .timestamp, precision := some 3, useCurrent := true, change := true }]
    commands := [.create, .addForeign { columns := ["guest_id"], table := "guest", references := ["id"] },
      .addKey .spatial { columns := ["place"] }, .renameIndex "old" "new", .dropColumns ["a", "b"]] }

theorem Blueprint.compiles_alike_read_back_letters : letters.isFinite = true ∧ letters.nullsDropped ≠ letters ∧
    ∃ decoded, Blueprint.ofJson? letters.toJson = some decoded ∧
      Blueprint.ofJson? letters.toJson.normal = some decoded ∧
        (∀ d : SchemaDialect, d.statements decoded = d.statements letters) ∧
          ((∀ c ∈ letters.columns, c.default ≠ some (.value .null)) → decoded = letters) :=
  ⟨rfl, by decide, Blueprint.compiles_alike_read_back letters rfl⟩

end WarehouseSql
