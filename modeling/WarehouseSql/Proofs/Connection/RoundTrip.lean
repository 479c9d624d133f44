import WarehouseSql.Connection.Config
import WarehouseSql.Proofs.Json.Reading

/-!
Configurations read back.  What has no field of its own is written beside the fields, so a configuration reads back
exactly if it is settled: no further property bears the name of a field, and all are readable and have their members in
order (`ConnectionConfig.ofJson?_toJson_iff`).  Texts and environments give settled configurations, and so **every
configuration that was read survives being written as JSON** (`ConnectionConfig.survives_writing`); what follows from
it, its data source name, its policy, its defaults and its dialects, survives with it.
-/

namespace WarehouseSql

open Json (Arranges HasMembers)

section

variable {arrange : Json → Json} (h : Arranges arrange)

include h

/-! ### options -/

lemma DriverKind.ofJson?_name (driver : DriverKind) : ofJson? (arrange (.text driver.name)) = some driver := by
  rw [h.text]
  cases driver <;> rfl

lemma Strictness.ofJson?_name (strictness : Strictness) :
    ofJson? (arrange (.text strictness.name)) = some strictness := by
  rw [h.text]
  cases strictness <;> rfl

lemma IdLookup.ofJson?_name (lookup : IdLookup) : ofJson? (arrange (.text lookup.name)) = some lookup := by
  rw [h.text]
  cases lookup <;> rfl

namespace ConnectionOptions

lemma grammarsOfJson?_object (queries schemas : Strictness) :
    grammarsOfJson? (arrange (.object [("query", .text queries.name), ("schema", .text schemas.name)])) =
      some (queries, schemas) := by
  obtain ⟨fields, hfields, hlookup⟩ := (h.object
    [("query", .text queries.name), ("schema", .text schemas.name)] (by simp)).exists_fields ["query", "schema"]
  rw [grammarsOfJson?, hfields, Option.bind_eq_bind, Option.bind_some,
    Fields.withDefault_bind (hlookup "query") (queries.ofJson?_name h),
    Fields.withDefault_bind (hlookup "schema") (schemas.ofJson?_name h)]

lemma ofJson?_toJson (o : ConnectionOptions) : ofJson? (arrange o.toJson) = some o := by
  have hmembers : HasMembers arrange _ (arrange o.toJson) := h.object _ (by simp)
  obtain ⟨fields, hfields, hlookup⟩ := hmembers.exists_fields ["grammar", "processor", "skip_constraint_statements"]
  rw [ofJson?, hfields, Option.bind_eq_bind, Option.bind_some,
    Fields.withDefault_bind (hlookup "grammar") (grammarsOfJson?_object h o.queries o.schemas),
    Fields.withDefault_bind (hlookup "processor") (o.idLookup.ofJson?_name h),
    Fields.withDefault_bind (hlookup "skip_constraint_statements") (h.asBool?_bool _)]

end ConnectionOptions

end

namespace ConnectionConfig

/-! ### further properties -/

/-- A configuration whose further properties bear no name of a field, are readable and have their members in order. -/
structure IsSettled (c : ConnectionConfig) : Prop where
  apart : ∀ property ∈ c.properties.entries, property.1 ∉ fieldNames
  readable : ∀ property ∈ c.properties.entries, property.2.isReadable = true
  normal : ∀ property ∈ c.properties.entries, property.2.normal = property.2

variable {c : ConnectionConfig}

lemma nodup_members (hc : c.IsSettled) : ((c.fieldMembers ++ c.properties.entries).map Prod.fst).Nodup := by
  have hfields : c.fieldMembers.map Prod.fst = fieldNames := rfl
  rw [List.map_append, hfields]
  refine List.nodup_append.2 ⟨by simp [fieldNames], c.properties.inOrder.nodup, ?_⟩
  rintro name hname _ hproperty rfl
  obtain ⟨property, hmem, rfl⟩ := List.mem_map.1 hproperty
  exact hc.apart property hmem hname

/-- The members that are no fields are the further properties. -/
lemma perm_further {arrange : Json → Json} (hc : c.IsSettled) {members : List (String × Json)}
    (hperm : members.Perm ((c.fieldMembers ++ c.properties.entries).map fun member => (member.1, arrange member.2))) :
    (members.filter fun member => !fieldNames.contains member.1).Perm
      (c.properties.entries.map fun member => (member.1, arrange member.2)) := by
  have hfields : (c.fieldMembers.map fun member => (member.1, arrange member.2)).filter
      (fun member => !fieldNames.contains member.1) = [] := by
    rw [List.filter_eq_nil_iff, List.forall_mem_map]
    intro member hmember
    have hname : member.1 ∈ fieldNames := List.mem_map_of_mem hmember
    simp [hname]
  have hfurther : (c.properties.entries.map fun member => (member.1, arrange member.2)).filter
      (fun member => !fieldNames.contains member.1) =
        c.properties.entries.map fun member => (member.1, arrange member.2) := by
    rw [List.filter_eq_self, List.forall_mem_map]
    intro property hproperty
    simp [hc.apart property hproperty]
  have hfilter := hperm.filter fun member => !fieldNames.contains member.1
  rwa [List.map_append, List.filter_append, hfields, hfurther, List.nil_append] at hfilter

lemma furtherProperties?_of_perm {arrange : Json → Json} (h : Arranges arrange)
    (hkeeps : ∀ j : Json, j.normal = j → (arrange j).normal = j) (hc : c.IsSettled) {members : List (String × Json)}
    (hperm : members.Perm ((c.fieldMembers ++ c.properties.entries).map fun member => (member.1, arrange member.2))) :
    furtherProperties? members = some c.properties := by
  have hfurther := perm_further hc hperm
  unfold furtherProperties?
  generalize (members.filter fun member => !fieldNames.contains member.1) = further at hfurther ⊢
  have hreadable : Json.areReadableMembers further = true := by
    rw [Json.areReadableMembers_iff]
    intro member hmember
    obtain ⟨property, hproperty, rfl⟩ := List.mem_map.1 (hfurther.mem_iff.1 hmember)
    exact h.isReadable _ (hc.readable property hproperty)
  have hnormal : (further.map fun member => (member.1, member.2.normal)).Perm c.properties.entries := by
    have hkept : (c.properties.entries.map fun member => (member.1, arrange member.2)).map
        (fun member => (member.1, member.2.normal)) = c.properties.entries := by
      rw [List.map_map]
      refine (List.map_congr_left fun property hproperty => ?_).trans (List.map_id _)
      exact Prod.ext rfl (hkeeps _ (hc.normal property hproperty))
    exact hkept ▸ hfurther.map fun member => (member.1, member.2.normal)
  have hentries := sortEntries_eq_of_perm hnormal c.properties.inOrder
  simp only [hreadable, if_true, Record.ofList, hentries]

/-! ### reading back -/

/-- A settled configuration reads back. -/
lemma ofJson?_toJson {arrange : Json → Json} (h : Arranges arrange)
    (hkeeps : ∀ j : Json, j.normal = j → (arrange j).normal = j) (hc : c.IsSettled) :
    ofJson? (arrange c.toJson) = some c := by
  have hmembers : HasMembers arrange _ (arrange c.toJson) := h.object _ (nodup_members hc)
  obtain ⟨fields, hfields, hperm, hkeys⟩ := hmembers.exists_perm_objectFields fieldNames
  have hlookup (name : String) :
      fields.members.lookup name = ((c.fieldMembers ++ c.properties.entries).lookup name).map arrange := by
    rw [lookup_eq_of_perm hperm hkeys name, lookup_map]
  rw [ofJson?, hfields, Option.bind_eq_bind, Option.bind_some,
    Fields.withDefault_bind (hlookup "driver") (c.driver.ofJson?_name h),
    Fields.nullable_bind (hlookup "dsn") (h.orNull?_text _),
    Fields.nullable_bind (hlookup "odbc_driver") (h.orNull?_text _),
    Fields.withDefault_bind (hlookup "database") (h.asText?_text _),
    Fields.nullable_bind (hlookup "username") (h.orNull?_text _),
    Fields.nullable_bind (hlookup "password") (h.orNull?_text _),
    Fields.withDefault_bind (hlookup "prefix") (h.asText?_text _),
    Fields.nullable_bind (hlookup "charset") (h.orNull?_text _),
    Fields.nullable_bind (hlookup "collation") (h.orNull?_text _),
    Fields.nullable_bind (hlookup "engine") (h.orNull?_text _),
    Fields.withDefault_bind (hlookup "case_sensitive") (h.asBool?_bool _),
    Fields.withDefault_bind (hlookup "quoted_identifiers_ignore_case") (h.asBool?_bool _),
    Fields.withDefault_bind (hlookup "options") (c.options.ofJson?_toJson h),
    furtherProperties?_of_perm h hkeeps hc hperm]
  rfl

/-! ### what is read is settled -/

lemma exists_furtherProperties {j : Json} (h : ofJson? j = some c) :
    ∃ members, furtherProperties? members = some c.properties := by
  obtain ⟨fields, -, h⟩ := Option.bind_eq_some_iff.1 h
  -- one step for each field
  iterate 13 obtain ⟨_, -, h⟩ := Option.bind_eq_some_iff.1 h
  obtain ⟨properties, hproperties, h⟩ := Option.bind_eq_some_iff.1 h
  obtain rfl := Option.some.inj h
  exact ⟨fields.members, hproperties⟩

/-- Whatever is read from JSON is settled. -/
lemma isSettled_of_ofJson? {j : Json} (h : ofJson? j = some c) : c.IsSettled := by
  obtain ⟨members, hproperties⟩ := exists_furtherProperties h
  unfold furtherProperties? at hproperties
  generalize hfurther : (members.filter fun member => !fieldNames.contains member.1) = further at hproperties
  dsimp only at hproperties
  split_ifs at hproperties with hreadable
  have hread : ∀ property ∈ c.properties.entries, ∃ member ∈ further, (member.1, member.2.normal) = property := by
    rw [← Option.some.inj hproperties]
    exact fun property hproperty => List.mem_map.1 (mem_sortEntries hproperty)
  refine ⟨fun property hproperty => ?_, fun property hproperty => ?_, fun property hproperty => ?_⟩
  · obtain ⟨member, hmember, rfl⟩ := hread property hproperty
    rw [← hfurther, List.mem_filter] at hmember
    simpa using hmember.2
  · obtain ⟨member, hmember, rfl⟩ := hread property hproperty
    exact Json.isReadable_normal _ (Json.areReadableMembers_iff.1 hreadable member hmember)
  · obtain ⟨member, -, rfl⟩ := hread property hproperty
    exact Json.normal_normal _

/-- **A configuration reads back exactly if it is settled.** -/
theorem ofJson?_toJson_iff : ofJson? c.toJson = some c ↔ c.IsSettled :=
  ⟨isSettled_of_ofJson?, ofJson?_toJson Json.arranges_id fun _ hj => hj⟩

/-- What is read from the environment is settled: its properties are texts, and no fields. -/
lemma isSettled_of_ofEnvironment {lookup : String → Option String} (h : ofEnvironment lookup = .ok c) :
    c.IsSettled := by
  have hnames : ∀ name ∈ environmentProperties, name ∉ fieldNames := by decide
  have hread : ∀ property ∈ c.properties.entries, ∃ name ∈ environmentProperties, ∃ content,
      (name, Json.text content) = property := by
    unfold ofEnvironment at h
    -- one step for each variable with a form of its own
    iterate 6 obtain ⟨_, -, h⟩ := bind_eq_ok.1 h
    obtain rfl := Except.ok.inj h
    intro property hproperty
    obtain ⟨name, hname, hset⟩ := List.mem_filterMap.1 (mem_sortEntries hproperty)
    obtain ⟨content, -, hcontent⟩ := Option.map_eq_some_iff.1 hset
    exact ⟨name, hname, content, hcontent⟩
  refine ⟨fun property hproperty => ?_, fun property hproperty => ?_, fun property hproperty => ?_⟩
  · obtain ⟨name, hname, content, rfl⟩ := hread property hproperty
    exact hnames name hname
  · obtain ⟨name, -, content, rfl⟩ := hread property hproperty
    rfl
  · obtain ⟨name, -, content, rfl⟩ := hread property hproperty
    rfl

/-- **What was read from a text or from the environment survives being written as JSON**: it reads back as it was, with
all its further properties, both as it is written and with its members in order. -/
theorem survives_writing (h : (∃ text, parse? text = some c) ∨ ∃ lookup, ofEnvironment lookup = .ok c) :
    ofJson? c.toJson = some c ∧ ofJson? c.toJson.normal = some c := by
  have hc : c.IsSettled := by
    rcases h with ⟨text, h⟩ | ⟨lookup, h⟩
    · obtain ⟨j, -, hj⟩ := Option.bind_eq_some_iff.1 h
      exact isSettled_of_ofJson? hj
    · exact isSettled_of_ofEnvironment h
  exact ⟨ofJson?_toJson_iff.2 hc, ofJson?_toJson Json.arranges_normal (fun j hj => hj.symm ▸ hj) hc⟩

/-- Further properties of any form, one of them null. -/
theorem survives_writing_native :
    let text := "\x7b\"driver\":\"snowflake_native\",\"region\":null,\"port\":4,"
      ++ "\"properties\":[2,\x7b\"b\":1,\"a\":3\x7d]\x7d"
    ∃ c, parse? text = some c ∧ c.dataSource = .ok "snowflake:properties=[2,\x7b\"a\":3,\"b\":1\x7d]" ∧
      ofJson? c.toJson = some c ∧ ofJson? c.toJson.normal = some c := by
  intro text
  have hsource : (parse? text).map dataSource = some (.ok "snowflake:properties=[2,\x7b\"a\":3,\"b\":1\x7d]") := by
    decide +kernel
  obtain ⟨c, hc, hcsource⟩ := Option.map_eq_some_iff.1 hsource
  exact ⟨c, hc, hcsource, survives_writing (.inl ⟨text, hc⟩)⟩

end ConnectionConfig

end WarehouseSql
