import WarehouseSql.Proofs.Value.RoundTrip
import WarehouseSql.Query.Json

/-!
Descriptions of queries read back.  A record is read by the names of its members, and a condition by the name of its
kind, so each kind reads back from members that are there under their names (`comparisonOfJson?_of_hasMembers` and
those after it).  A condition holds queries again, and a held query is read in a stricter way; the proof goes through
the mutual structure of the description for both ways at once: **a query with finite values reads back**, at any
nesting (`Query.ofJson?_toJson`), as it was written or with its members in the order of their names
(`Query.reads_back`).
-/

namespace WarehouseSql

open Json (Arranges HasMembers)

/-! ### finite queries -/

def GroupCondition.isFinite : GroupCondition → Bool
  | .compare _ _ operand => operand.isFinite
  | .between _ low high _ => low.isFinite && high.isFinite
  | .raw _ bindings => bindings.all Value.isFinite

mutual
/-- Whether all values in a query and in the queries inside it are finite. -/
def Query.isFinite : Query → Bool
  | ⟨_, _, _, _, joins, clauses, _, havings, _, _, _, _, branches, _, _, _⟩ =>
    joinsFinite joins && clausesFinite clauses && havings.all (·.condition.isFinite) && branchesFinite branches

def joinsFinite : List Join → Bool
  | [] => true
  | ⟨_, _, clauses⟩ :: joins => clausesFinite clauses && joinsFinite joins

def clausesFinite : List Clause → Bool
  | [] => true
  | ⟨_, condition⟩ :: clauses => condition.isFinite && clausesFinite clauses

def Condition.isFinite : Condition → Bool
  | .compare _ _ operand => operand.isFinite
  | .compareColumns _ _ _ => true
  | .among _ operands _ => operands.all Operand.isFinite
  | .isNull _ _ => true
  | .between _ low high _ => low.isFinite && high.isFinite
  | .group clauses => clausesFinite clauses
  | .raw _ bindings => bindings.all Value.isFinite
  | .existsRow query _ => query.isFinite
  | .amongRows _ query _ => query.isFinite
  | .comparePart _ _ _ operand => operand.isFinite

def branchesFinite : List Branch → Bool
  | [] => true
  | ⟨query, _⟩ :: branches => query.isFinite && branchesFinite branches
end

/-! ### readable queries -/

lemma isReadable_comparisonMembers (column : Reference) (operator : String) (operand : Operand) :
    ∀ member ∈ comparisonMembers column operator operand, member.2.isReadable = true := by
  simp [comparisonMembers, column.isReadable_toJson, operand.isReadable_toJson]

lemma isReadable_rangeMembers (column : Reference) (low high : Operand) (negated : Bool) :
    ∀ member ∈ rangeMembers column low high negated, member.2.isReadable = true := by
  simp [rangeMembers, column.isReadable_toJson, low.isReadable_toJson, high.isReadable_toJson]

lemma isReadable_rawMembers (sql : String) (bindings : List Value) :
    ∀ member ∈ rawMembers sql bindings, member.2.isReadable = true := by
  simp [rawMembers, Json.isReadable_list_map bindings fun v _ => v.isReadable_toJson]

lemma Distinct.isReadable_toJson (d : Distinct) : d.toJson.isReadable = true := by
  cases d with
  | columns names => simp [toJson, Json.isReadable_object, Json.isReadable_ofTexts]
  | _ => rfl

lemma Aggregate.isReadable_toJson (a : Aggregate) : a.toJson.isReadable = true := by
  simp [toJson, Json.isReadable_object, Json.isReadable_list_map a.columns fun r _ => r.isReadable_toJson]

lemma Lock.isReadable_toJson (l : Lock) : l.toJson.isReadable = true := by
  cases l <;> rfl

lemma Order.isReadable_toJson (o : Order) : o.toJson.isReadable = true := by
  cases o with
  | raw sql => rfl
  | column reference direction =>
    simp [toJson, Direction.toJson, Json.isReadable_object, reference.isReadable_toJson]

lemma GroupCondition.isReadable_members (c : GroupCondition) : ∀ member ∈ c.members, member.2.isReadable = true := by
  cases c with
  | compare column operator operand =>
    exact List.forall_mem_cons.2 ⟨Json.isReadable_text _, isReadable_comparisonMembers column operator operand⟩
  | between column low high negated =>
    exact List.forall_mem_cons.2 ⟨Json.isReadable_text _, isReadable_rangeMembers column low high negated⟩
  | raw sql bindings =>
    exact List.forall_mem_cons.2 ⟨Json.isReadable_text _, isReadable_rawMembers sql bindings⟩

lemma Having.isReadable_toJson (having : Having) : having.toJson.isReadable = true := by
  obtain ⟨connective, condition⟩ := having
  rw [toJson, Json.isReadable_object, List.forall_mem_cons]
  exact ⟨Json.isReadable_text _, condition.isReadable_members⟩

mutual
lemma Query.isReadable_toJson : ∀ q : Query, q.toJson.isReadable = true
  | ⟨source, columns, distinct, aggregate, joins, clauses, groups, havings, orders, limit, offset, lock, branches,
      unionOrders, unionLimit, unionOffset⟩ => by
    have hreferences (references : List Reference) :=
      Json.isReadable_list_map references fun r _ => r.isReadable_toJson
    have horders (orders : List Order) := Json.isReadable_list_map orders fun o _ => o.isReadable_toJson
    have hcount (count : Option UInt64) : (Json.ofOption .ofUInt64 count).isReadable = true :=
      Json.isReadable_ofOption fun _ _ => Json.isReadable_int _
    simp [Query.toJson, Json.isReadable_object, Json.isReadable_ofOption fun r _ => Reference.isReadable_toJson r,
      distinct.isReadable_toJson, hreferences, Json.isReadable_ofOption fun a _ => Aggregate.isReadable_toJson a,
      Join.isReadable_listToJson joins, Clause.isReadable_listToJson clauses,
      Json.isReadable_list_map havings fun having _ => having.isReadable_toJson, horders, hcount,
      Json.isReadable_ofOption fun l _ => Lock.isReadable_toJson l, Branch.isReadable_listToJson branches]

lemma Join.isReadable_listToJson : ∀ joins : List Join, (Json.list (Join.listToJson joins)).isReadable = true
  | [] => rfl
  | ⟨kind, table, clauses⟩ :: joins => by
    have hrest := Join.isReadable_listToJson joins
    rw [Json.isReadable_list] at hrest ⊢
    rw [Join.listToJson, List.forall_mem_cons]
    refine ⟨?_, hrest⟩
    simp [Json.isReadable_object, JoinKind.toJson, table.isReadable_toJson, Clause.isReadable_listToJson clauses]

lemma Clause.isReadable_listToJson :
    ∀ clauses : List Clause, (Json.list (Clause.listToJson clauses)).isReadable = true
  | [] => rfl
  | ⟨connective, condition⟩ :: clauses => by
    have hrest := Clause.isReadable_listToJson clauses
    rw [Json.isReadable_list] at hrest ⊢
    rw [Clause.listToJson, List.forall_mem_cons, Json.isReadable_object, List.forall_mem_cons]
    exact ⟨⟨Json.isReadable_text _, condition.isReadable_members⟩, hrest⟩

lemma Condition.isReadable_members : ∀ c : Condition, ∀ member ∈ c.members, member.2.isReadable = true
  | .compare column operator operand =>
    List.forall_mem_cons.2 ⟨Json.isReadable_text _, isReadable_comparisonMembers column operator operand⟩
  | .compareColumns first _ second => by simp [Condition.members, first.isReadable_toJson, second.isReadable_toJson]
  | .among column operands _ => by
    simp [Condition.members, column.isReadable_toJson, Json.isReadable_list_map operands fun o _ => o.isReadable_toJson]
  | .isNull column _ => by simp [Condition.members, column.isReadable_toJson]
  | .between column low high negated =>
    List.forall_mem_cons.2 ⟨Json.isReadable_text _, isReadable_rangeMembers column low high negated⟩
  | .group clauses => by simp [Condition.members, Clause.isReadable_listToJson clauses]
  | .raw sql bindings => List.forall_mem_cons.2 ⟨Json.isReadable_text _, isReadable_rawMembers sql bindings⟩
  | .existsRow query _ => by simp [Condition.members, query.isReadable_toJson]
  | .amongRows column query _ => by simp [Condition.members, column.isReadable_toJson, query.isReadable_toJson]
  | .comparePart _ column operator operand =>
    List.forall_mem_cons.2 ⟨Json.isReadable_text _,
      List.forall_mem_cons.2 ⟨Json.isReadable_text _, isReadable_comparisonMembers column operator operand⟩⟩

lemma Branch.isReadable_listToJson :
    ∀ branches : List Branch, (Json.list (Branch.listToJson branches)).isReadable = true
  | [] => rfl
  | ⟨query, keepAll⟩ :: branches => by
    have hrest := Branch.isReadable_listToJson branches
    rw [Json.isReadable_list] at hrest ⊢
    rw [Branch.listToJson, List.forall_mem_cons]
    refine ⟨?_, hrest⟩
    simp [Json.isReadable_object, query.isReadable_toJson]
end

/-! ### parts without queries inside -/

section

variable {arrange : Json → Json} (h : Arranges arrange) (delivery : Json.Delivery)

include h

lemma Distinct.ofJson?_toJson (d : Distinct) : ofJson? delivery (arrange d.toJson) = some d := by
  cases d with
  | off => rw [toJson, h.text]; rfl
  | all => rw [toJson, h.text]; rfl
  | columns names =>
    obtain ⟨-, arranged, harranged, hperm⟩ := h.object [("columns", .ofTexts names)] (by simp)
    rw [toJson, harranged, List.perm_singleton.1 hperm, ofJson?, h.asTexts?_ofTexts, Option.map_some]

lemma Aggregate.ofJson?_toJson (a : Aggregate) : ofJson? (arrange a.toJson) = some a := by
  have hmembers : HasMembers arrange _ (arrange a.toJson) := h.object _ (by simp)
  obtain ⟨fields, hfields, hlookup⟩ := hmembers.exists_fields ["function", "columns"]
  have hcolumns := h.asList?_map a.columns fun r _ => r.ofJson?_toJson h
  rw [ofJson?, hfields, Option.bind_eq_bind, Option.bind_some,
    Fields.required_bind (hlookup "function") (h.asText?_text _), Fields.required_bind (hlookup "columns") hcolumns]

lemma Connective.ofJson?_toJson (c : Connective) : ofJson? delivery (arrange c.toJson) = some c := by
  rw [toJson, h.text]
  cases c <;> rfl

lemma DatePart.ofJson?_toJson (part : DatePart) : ofJson? delivery (arrange part.toJson) = some part := by
  rw [toJson, h.text]
  cases part <;> rfl

lemma JoinKind.ofJson?_toJson (kind : JoinKind) : ofJson? delivery (arrange kind.toJson) = some kind := by
  rw [toJson, h.text]
  cases kind <;> rfl

lemma Direction.ofJson?_toJson (direction : Direction) : ofJson? (arrange direction.toJson) = some direction := by
  rw [toJson, h.text]
  cases direction <;> rfl

lemma Lock.ofJson?_toJson (l : Lock) : ofJson? delivery (arrange l.toJson) = some l := by
  cases l with
  | update => rw [toJson, h.text]; rfl
  | shared => rw [toJson, h.text]; rfl
  | raw sql =>
    obtain ⟨-, arranged, harranged, hperm⟩ := h.object [("raw", .text sql)] (by simp)
    rw [toJson, harranged, List.perm_singleton.1 hperm, ofJson?, h.asText?_text, Option.map_some]

lemma Order.ofJson?_toJson (o : Order) : ofJson? (arrange o.toJson) = some o := by
  have hreadable : (arrange o.toJson).isReadable = true := h.isReadable _ o.isReadable_toJson
  rw [ofJson?, if_pos hreadable]
  cases o with
  | raw sql =>
    have hmembers : HasMembers arrange _ (arrange (Order.raw sql).toJson) := h.object _ (by simp)
    obtain ⟨fields, hfields, hlookup⟩ := hmembers.exists_objectFields ["sql"]
    rw [rawOfJson?, hfields, Option.bind_eq_bind, Option.bind_some,
      Fields.required_bind (hlookup "sql") (h.asText?_text sql)]
    rfl
  | column reference direction =>
    have hmembers : HasMembers arrange [("column", reference.toJson), ("direction", direction.toJson)]
      (arrange (Order.column reference direction).toJson) := h.object _ (by simp)
    -- without a member `sql` it is not raw
    have hraw : rawOfJson? (arrange (Order.column reference direction).toJson) = none := by
      obtain ⟨fields, hfields, hlookup⟩ := hmembers.exists_objectFields ["sql"]
      have hsql : fields.members.lookup "sql" = none := hlookup "sql"
      rw [rawOfJson?, hfields, Option.bind_eq_bind, Option.bind_some, Fields.required_eq, hsql]
      rfl
    obtain ⟨fields, hfields, hlookup⟩ := hmembers.exists_objectFields ["column", "direction"]
    rw [hraw, Option.none_or, columnOfJson?, hfields, Option.bind_eq_bind, Option.bind_some,
      Fields.required_bind (hlookup "column") (reference.ofJson?_toJson h),
      Fields.withDefault_bind (hlookup "direction") (direction.ofJson?_toJson h)]

/-! ### kinds -/

section

variable {members : List (String × Json)} {j : Json} (hj : HasMembers arrange members j)

include hj

lemma kindOfObject?_of_hasMembers (names : List String) (kind : String)
    (hkind : members.lookup "type" = some (.text kind)) (hmem : names.contains kind = true) :
    kindOfObject? names j = some kind := by
  obtain ⟨fields, hfields, hlookup⟩ := hj.exists_objectFields ["boolean", "type"]
  rw [kindOfObject?, hfields, Option.bind_eq_bind, Option.bind_some, Fields.required_eq, hlookup, hkind,
    Option.map_some, Option.bind_some, h.text, asKind?, if_pos hmem]

lemma connectiveOfObject?_of_hasMembers {c : Connective} (hconnective : members.lookup "boolean" = some c.toJson) :
    connectiveOfObject? delivery j = some c := by
  obtain ⟨fields, hfields, hlookup⟩ := hj.exists_objectFields ["boolean", "type"]
  rw [connectiveOfObject?, hfields, Option.bind_eq_bind, Option.bind_some, Fields.withDefault_eq, hlookup, hconnective,
    Option.map_some, Option.elim_some, c.ofJson?_toJson h]

lemma comparisonOfJson?_of_hasMembers {column : Reference} {operator : String} {operand : Operand}
    (hcolumn : members.lookup "column" = some column.toJson)
    (hoperator : members.lookup "operator" = some (.text operator))
    (hoperand : members.lookup "value" = some operand.toJson) (hfinite : operand.isFinite = true) :
    comparisonOfJson? j = some (column, operator, operand) := by
  obtain ⟨fields, hfields, hlookup⟩ := hj.exists_objectFields ["column", "operator", "value"]
  simp [comparisonOfJson?, hfields, Fields.required_eq, hlookup, hcolumn, hoperator, hoperand, column.ofJson?_toJson h,
    h.asText?_text, Operand.ofJson?_toJson h hfinite]

lemma rangeOfJson?_of_hasMembers {column : Reference} {low high : Operand} {negated : Bool}
    (hcolumn : members.lookup "column" = some column.toJson) (hlow : members.lookup "min" = some low.toJson)
    (hhigh : members.lookup "max" = some high.toJson) (hnegated : members.lookup "not" = some (.bool negated))
    (hfinite : (low.isFinite && high.isFinite) = true) : rangeOfJson? j = some (column, low, high, negated) := by
  obtain ⟨hlowFinite, hhighFinite⟩ := Bool.and_eq_true_iff.1 hfinite
  obtain ⟨fields, hfields, hlookup⟩ := hj.exists_objectFields ["column", "min", "max", "not"]
  simp [rangeOfJson?, hfields, Fields.required_eq, Fields.withDefault_eq, hlookup, hcolumn, hlow, hhigh, hnegated,
    h.asBool?_bool, column.ofJson?_toJson h, Operand.ofJson?_toJson h hlowFinite, Operand.ofJson?_toJson h hhighFinite]

lemma rawOfJson?_of_hasMembers {sql : String} {bindings : List Value}
    (hsql : members.lookup "sql" = some (.text sql))
    (hbindings : members.lookup "bindings" = some (.list (bindings.map Value.toJson)))
    (hfinite : bindings.all Value.isFinite = true) : rawOfJson? j = some (sql, bindings) := by
  obtain ⟨fields, hfields, hlookup⟩ := hj.exists_objectFields ["sql", "bindings"]
  have hvalues := h.asList?_map bindings fun v hv => v.ofJson?_toJson h (List.all_eq_true.1 hfinite v hv)
  simp [rawOfJson?, hfields, Fields.required_eq, Fields.withDefault_eq, hlookup, hsql, hbindings, h.asText?_text,
    hvalues]

end

/-! ### conditions on groups -/

omit h in
lemma GroupCondition.nodup_members (connective : Json) (c : GroupCondition) :
    ((("boolean", connective) :: c.members).map Prod.fst).Nodup := by
  cases c <;> simp [members, comparisonMembers, rangeMembers, rawMembers]

lemma GroupCondition.ofJson?_of_hasMembers {connective j : Json} {c : GroupCondition}
    (hj : HasMembers arrange (("boolean", connective) :: c.members) j) (hfinite : c.isFinite = true) :
    ofJson? j = some c := by
  cases c with
  | compare column operator operand =>
    have hread := comparisonOfJson?_of_hasMembers h hj rfl rfl rfl hfinite
    simp [ofJson?, kindOfObject?_of_hasMembers h hj kinds "basic" rfl rfl, hread]
  | between column low high negated =>
    have hread := rangeOfJson?_of_hasMembers h hj rfl rfl rfl rfl hfinite
    simp [ofJson?, kindOfObject?_of_hasMembers h hj kinds "between" rfl rfl, hread]
  | raw sql bindings =>
    have hread := rawOfJson?_of_hasMembers h hj rfl rfl hfinite
    simp [ofJson?, kindOfObject?_of_hasMembers h hj kinds "raw" rfl rfl, hread]

lemma Having.ofJson?_toJson {having : Having} (hfinite : having.condition.isFinite = true) :
    ofJson? delivery (arrange having.toJson) = some having := by
  have hreadable : (arrange having.toJson).isReadable = true := h.isReadable _ having.isReadable_toJson
  have hmembers : HasMembers arrange _ (arrange having.toJson) := h.object _ (having.condition.nodup_members _)
  rw [ofJson?, if_pos hreadable, connectiveOfObject?_of_hasMembers h delivery hmembers rfl,
    GroupCondition.ofJson?_of_hasMembers h hmembers hfinite]
  rfl

/-! ### conditions without queries inside -/

namespace Condition

/-- The name under which a condition is written. -/
def kind : Condition → String
  | .compare _ _ _ => "basic"
  | .compareColumns _ _ _ => "column"
  | .among _ _ _ => "in"
  | .isNull _ _ => "null"
  | .between _ _ _ _ => "between"
  | .group _ => "nested"
  | .raw _ _ => "raw"
  | .existsRow _ _ => "exists"
  | .amongRows _ _ _ => "in_sub"
  | .comparePart _ _ _ _ => "date"

omit h in
lemma nodup_members (connective : Json) (c : Condition) :
    ((("boolean", connective) :: c.members).map Prod.fst).Nodup := by
  cases c <;> simp [members, comparisonMembers, rangeMembers, rawMembers]

section

variable {connective j : Json} {column : Reference} {operator : String} {negated : Bool}

lemma compareColumnsOfJson?_of_hasMembers {first second : Reference}
    (hj : HasMembers arrange (("boolean", connective) :: (compareColumns first operator second).members) j) :
    compareColumnsOfJson? j = some (.compareColumns first operator second) := by
  obtain ⟨fields, hfields, hlookup⟩ := hj.exists_objectFields ["first", "operator", "second"]
  rw [compareColumnsOfJson?, hfields, Option.bind_eq_bind, Option.bind_some,
    Fields.required_bind (hlookup "first") (first.ofJson?_toJson h),
    Fields.required_bind (hlookup "operator") (h.asText?_text operator),
    Fields.required_bind (hlookup "second") (second.ofJson?_toJson h)]

lemma amongOfJson?_of_hasMembers {operands : List Operand}
    (hj : HasMembers arrange (("boolean", connective) :: (among column operands negated).members) j)
    (hfinite : operands.all Operand.isFinite = true) : amongOfJson? j = some (.among column operands negated) := by
  obtain ⟨fields, hfields, hlookup⟩ := hj.exists_objectFields ["column", "values", "not"]
  have hoperands := h.asList?_map operands fun o ho => o.ofJson?_toJson h (List.all_eq_true.1 hfinite o ho)
  rw [amongOfJson?, hfields, Option.bind_eq_bind, Option.bind_some,
    Fields.required_bind (hlookup "column") (column.ofJson?_toJson h),
    Fields.required_bind (hlookup "values") hoperands,
    Fields.withDefault_bind (hlookup "not") (h.asBool?_bool negated)]

lemma isNullOfJson?_of_hasMembers
    (hj : HasMembers arrange (("boolean", connective) :: (isNull column negated).members) j) :
    isNullOfJson? j = some (.isNull column negated) := by
  obtain ⟨fields, hfields, hlookup⟩ := hj.exists_objectFields ["column", "not"]
  rw [isNullOfJson?, hfields, Option.bind_eq_bind, Option.bind_some,
    Fields.required_bind (hlookup "column") (column.ofJson?_toJson h),
    Fields.withDefault_bind (hlookup "not") (h.asBool?_bool negated)]

lemma comparePartOfJson?_of_hasMembers {part : DatePart} {operand : Operand}
    (hj : HasMembers arrange (("boolean", connective) :: (comparePart part column operator operand).members) j)
    (hfinite : operand.isFinite = true) :
    comparePartOfJson? j = some (.comparePart part column operator operand) := by
  obtain ⟨fields, hfields, hlookup⟩ := hj.exists_objectFields ["part"]
  rw [comparePartOfJson?, hfields, Option.bind_eq_bind, Option.bind_some,
    Fields.required_bind (hlookup "part") (part.ofJson?_toJson h .held),
    comparisonOfJson?_of_hasMembers h hj rfl rfl rfl hfinite, Option.bind_eq_bind, Option.bind_some]

end

end Condition

/-! ### queries -/

def Query.members (q : Query) : List (String × Json) :=
  [("from", .ofOption Reference.toJson q.source),
    ("columns", .list (q.columns.map Reference.toJson)),
    ("distinct", q.distinct.toJson),
    ("aggregate", .ofOption Aggregate.toJson q.aggregate),
    ("joins", .list (Join.listToJson q.joins)),
    ("wheres", .list (Clause.listToJson q.clauses)),
    ("groups", .list (q.groups.map Reference.toJson)),
    ("havings", .list (q.havings.map Having.toJson)),
    ("orders", .list (q.orders.map Order.toJson)),
    ("limit", .ofOption .ofUInt64 q.limit),
    ("offset", .ofOption .ofUInt64 q.offset),
    ("lock", .ofOption Lock.toJson q.lock),
    ("unions", .list (Branch.listToJson q.branches)),
    ("union_orders", .list (q.unionOrders.map Order.toJson)),
    ("union_limit", .ofOption .ofUInt64 q.unionLimit),
    ("union_offset", .ofOption .ofUInt64 q.unionOffset)]

omit h in
lemma Query.toJson_eq (q : Query) : q.toJson = .object q.members := by
  cases q
  rw [toJson]
  rfl

lemma Query.ofJson?_of_parts {q : Query} (hhavings : q.havings.all (·.condition.isFinite) = true)
    (hjoins : (arrange (.list (Join.listToJson q.joins))).asList? (Join.ofJson? delivery) = some q.joins)
    (hclauses : (arrange (.list (Clause.listToJson q.clauses))).asList? (Clause.ofJson? delivery) = some q.clauses)
    (hbranches : (arrange (.list (Branch.listToJson q.branches))).asList? (Branch.ofJson? delivery) =
      some q.branches) : ofJson? delivery (arrange q.toJson) = some q := by
  have hmembers : HasMembers arrange q.members (arrange (.object q.members)) := h.object _ (by simp [members])
  obtain ⟨fields, hfields, hlookup⟩ := hmembers.exists_fields fieldNames
  have hreferences (references : List Reference) := h.asList?_map references fun r _ => r.ofJson?_toJson h
  have horders (orders : List Order) := h.asList?_map orders fun o _ => o.ofJson?_toJson h
  have hreadHavings := h.asList?_map q.havings fun having hmem =>
    having.ofJson?_toJson h delivery (List.all_eq_true.1 hhavings having hmem)
  have hsource := h.orNull?_ofOption (o := q.source) (fun r _ => r.ofJson?_toJson h) rfl
  have haggregate := h.orNull?_ofOption (o := q.aggregate) (fun a _ => a.ofJson?_toJson h) rfl
  have hlock := h.orNull?_ofOption (o := q.lock) (fun l _ => l.ofJson?_toJson h delivery) rfl
  rw [Query.toJson_eq, Query.ofJson?, hfields, Option.bind_eq_bind, Option.bind_some]
  simp only [Json.asListWith?_eq_asList?]
  rw [Fields.nullable_bind (hlookup "from") hsource, Fields.withDefault_bind (hlookup "columns") (hreferences _),
    Fields.withDefault_bind (hlookup "distinct") (q.distinct.ofJson?_toJson h delivery),
    Fields.nullable_bind (hlookup "aggregate") haggregate, Fields.withDefault_bind (hlookup "joins") hjoins,
    Fields.withDefault_bind (hlookup "wheres") hclauses, Fields.withDefault_bind (hlookup "groups") (hreferences _),
    Fields.withDefault_bind (hlookup "havings") hreadHavings, Fields.withDefault_bind (hlookup "orders") (horders _),
    Fields.nullable_bind (hlookup "limit") (h.orNull?_ofUInt64 _),
    Fields.nullable_bind (hlookup "offset") (h.orNull?_ofUInt64 _), Fields.nullable_bind (hlookup "lock") hlock,
    Fields.withDefault_bind (hlookup "unions") hbranches,
    Fields.withDefault_bind (hlookup "union_orders") (horders _),
    Fields.nullable_bind (hlookup "union_limit") (h.orNull?_ofUInt64 _),
    Fields.nullable_bind (hlookup "union_offset") (h.orNull?_ofUInt64 _)]
  cases q
  rfl

mutual
/-- **A finite query reads back**, however its members are arranged and however it is delivered. -/
theorem Query.ofJson?_toJson (delivery : Json.Delivery) : ∀ q : Query, q.isFinite = true →
    Query.ofJson? delivery (arrange q.toJson) = some q
  | ⟨_, _, _, _, joins, clauses, _, havings, _, _, _, _, branches, _, _, _⟩, hfinite => by
    simp only [Query.isFinite, Bool.and_eq_true] at hfinite
    obtain ⟨⟨⟨hjoins, hclauses⟩, hhavings⟩, hbranches⟩ := hfinite
    exact Query.ofJson?_of_parts h delivery hhavings (Join.asList?_listToJson delivery joins hjoins)
      (Clause.asList?_listToJson delivery clauses hclauses) (Branch.asList?_listToJson delivery branches hbranches)

theorem Join.asList?_listToJson (delivery : Json.Delivery) : ∀ joins : List Join, joinsFinite joins = true →
    (arrange (.list (Join.listToJson joins))).asList? (Join.ofJson? delivery) = some joins
  | [], _ => h.asList?_nil _
  | ⟨kind, table, clauses⟩ :: joins, hfinite => by
    obtain ⟨hclauses, hjoins⟩ := Bool.and_eq_true_iff.1 hfinite
    refine h.asList?_cons ?_ (Join.asList?_listToJson delivery joins hjoins)
    have hmembers := h.object
      [("kind", kind.toJson), ("table", table.toJson), ("wheres", .list (Clause.listToJson clauses))] (by simp)
    obtain ⟨fields, hfields, hlookup⟩ := hmembers.exists_fields ["kind", "table", "wheres"]
    have hwheres := Clause.asList?_listToJson delivery clauses hclauses
    rw [Join.ofJson?, hfields, Option.bind_eq_bind, Option.bind_some]
    simp only [Json.asListWith?_eq_asList?]
    rw [Fields.withDefault_bind (hlookup "kind") (kind.ofJson?_toJson h delivery),
      Fields.required_bind (hlookup "table") (table.ofJson?_toJson h),
      Fields.withDefault_bind (hlookup "wheres") hwheres]

theorem Clause.asList?_listToJson (delivery : Json.Delivery) : ∀ clauses : List Clause, clausesFinite clauses = true →
    (arrange (.list (Clause.listToJson clauses))).asList? (Clause.ofJson? delivery) = some clauses
  | [], _ => h.asList?_nil _
  | ⟨connective, condition⟩ :: clauses, hfinite => by
    obtain ⟨hcondition, hclauses⟩ := Bool.and_eq_true_iff.1 hfinite
    exact h.asList?_cons (Clause.ofJson?_object delivery connective condition hcondition)
      (Clause.asList?_listToJson delivery clauses hclauses)

theorem Clause.ofJson?_object (delivery : Json.Delivery) (connective : Connective) : ∀ c : Condition,
    c.isFinite = true → Clause.ofJson? delivery (arrange (.object (("boolean", connective.toJson) :: c.members))) =
      some ⟨connective, c⟩
  | c, hfinite => by
    have hmembers := h.object _ (c.nodup_members connective.toJson)
    have hreadable : (arrange (.object (("boolean", connective.toJson) :: c.members))).isReadable = true :=
      h.isReadable _ (Json.isReadable_object.2 (List.forall_mem_cons.2 ⟨Json.isReadable_text _, c.isReadable_members⟩))
    have hkind :=
      kindOfObject?_of_hasMembers h hmembers Condition.kinds c.kind (by cases c <;> rfl) (by cases c <;> rfl)
    rw [Clause.ofJson?, if_pos hreadable, connectiveOfObject?_of_hasMembers h delivery hmembers rfl, hkind]
    -- the kind is known now, and each kind reads its own members, nested queries by induction
    cases c with
    | compare column operator operand =>
      simp [Condition.kind, comparisonOfJson?_of_hasMembers h hmembers rfl rfl rfl hfinite]
    | compareColumns first operator second =>
      simp [Condition.kind, Condition.compareColumnsOfJson?_of_hasMembers h hmembers]
    | among column operands negated =>
      simp [Condition.kind, Condition.amongOfJson?_of_hasMembers h hmembers hfinite]
    | isNull column negated => simp [Condition.kind, Condition.isNullOfJson?_of_hasMembers h hmembers]
    | between column low high negated =>
      simp [Condition.kind, rangeOfJson?_of_hasMembers h hmembers rfl rfl rfl rfl hfinite]
    | group clauses =>
      obtain ⟨fields, hfields, hlookup⟩ := hmembers.exists_objectFields ["wheres"]
      have hinner := Clause.asList?_listToJson .held clauses hfinite
      have hwheres := Fields.required_of_lookup (hlookup "wheres") hinner
      simp [Condition.kind, hfields, Json.asListWith?_eq_asList?, hwheres]
    | raw sql bindings => simp [Condition.kind, rawOfJson?_of_hasMembers h hmembers rfl rfl hfinite]
    | existsRow query negated =>
      obtain ⟨fields, hfields, hlookup⟩ := hmembers.exists_objectFields ["query", "not"]
      have hquery := Fields.required_of_lookup (hlookup "query") (Query.ofJson?_toJson .held query hfinite)
      have hnegated := Fields.withDefault_of_lookup false (hlookup "not") (h.asBool?_bool negated)
      simp [Condition.kind, hfields, hquery, hnegated]
    | amongRows column query negated =>
      obtain ⟨fields, hfields, hlookup⟩ := hmembers.exists_objectFields ["column", "query", "not"]
      have hcolumn := Fields.required_of_lookup (hlookup "column") (column.ofJson?_toJson h)
      have hquery := Fields.required_of_lookup (hlookup "query") (Query.ofJson?_toJson .held query hfinite)
      have hnegated := Fields.withDefault_of_lookup false (hlookup "not") (h.asBool?_bool negated)
      simp [Condition.kind, hfields, hcolumn, hquery, hnegated]
    | comparePart part column operator operand =>
      simp [Condition.kind, Condition.comparePartOfJson?_of_hasMembers h hmembers hfinite]

theorem Branch.asList?_listToJson (delivery : Json.Delivery) : ∀ branches : List Branch,
    branchesFinite branches = true →
      (arrange (.list (Branch.listToJson branches))).asList? (Branch.ofJson? delivery) = some branches
  | [], _ => h.asList?_nil _
  | ⟨query, keepAll⟩ :: branches, hfinite => by
    obtain ⟨hquery, hbranches⟩ := Bool.and_eq_true_iff.1 hfinite
    refine h.asList?_cons ?_ (Branch.asList?_listToJson delivery branches hbranches)
    have hmembers := h.object [("query", query.toJson), ("all", .bool keepAll)] (by simp)
    obtain ⟨fields, hfields, hlookup⟩ := hmembers.exists_fields ["query", "all"]
    have hinner := Query.ofJson?_toJson delivery query hquery
    rw [Branch.ofJson?, hfields, Option.bind_eq_bind, Option.bind_some, Fields.required_bind (hlookup "query") hinner,
      Fields.withDefault_bind (hlookup "all") (h.asBool?_bool _)]
end

end

/-- **A query with finite values reads back** as it was written and with its members in order. -/
theorem Query.reads_back (delivery : Json.Delivery) (q : Query) (hfinite : q.isFinite = true) :
    Query.ofJson? delivery q.toJson = some q ∧ Query.ofJson? delivery q.toJson.normal = some q :=
  ⟨q.ofJson?_toJson Json.arranges_id delivery hfinite, q.ofJson?_toJson Json.arranges_normal delivery hfinite⟩

/-- Rooms whose guests are all grown up, and rooms that are being painted. -/
def roomsToLet : Query :=
  { Query.empty with
    source := some (.name "room as r")
    joins := [⟨.left, .raw "stay s", [⟨.and, .compareColumns (.name "r.id") "=" (.name "s.room_id")⟩]⟩]
    clauses := [⟨.and, .group [⟨.or, .existsRow
      { Query.empty with
        source := some (.name "guest")
        clauses := [⟨.and, .among (.name "age") [.value (.int 16), .value .null, .raw "16 + 1"] false⟩] } true⟩]⟩]
    havings := [⟨.and, .compare (.raw "sum(price)") ">" (.value (.float (.finite true .zero)))⟩]
    orders := [.raw "rand()", .column (.name "r.id") .descending]
    limit := some 10
    branches := [⟨{ Query.empty with source := some (.name "paint"), lock := some .update }, true⟩] }

theorem Query.reads_back_roomsToLet : roomsToLet.isFinite = true ∧
    Query.ofJson? .direct roomsToLet.toJson = some roomsToLet ∧
      Query.ofJson? .direct roomsToLet.toJson.normal = some roomsToLet :=
  ⟨rfl, Query.reads_back .direct roomsToLet rfl⟩

end WarehouseSql
