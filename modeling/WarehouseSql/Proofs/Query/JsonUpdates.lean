import WarehouseSql.Proofs.Query.JsonPaths

/-!
Updates with several values at JSON selectors.  A value is touched by one that is written to the same column at a path
which begins with its own, or with which its own begins (`JsonWrite.Touches`); nothing else changes it.  **A value is
there in the end exactly if the last one that touches it later is the same at the same path, or there is none; then the
statement binds it** (`Dialect.keeps_iff_outlives`).  No other value is refused; it is lost
(`Dialect.exists_value_lost`).
-/

namespace WarehouseSql

lemma Value.toJson_ne_object (v : Value) (members : List (String × Json)) : v.toJson ≠ .object members := by
  cases v with
  | float number =>
    rw [toJson, Json.ofBinary64]
    split_ifs <;> exact Json.noConfusion
  | _ => exact Json.noConfusion

/-- The value at a path into a column. -/
def Dialect.valueAt? (groups : Dialect.JsonGroups) (column : String) (keys : List String) : Option Json :=
  (groups.lookup column).bind (Json.at? · keys)

open Dialect (valueAt?)

namespace JsonWrite

/-- Two values are written to the same column, at paths one of which begins with the other. -/
def Touches (u w : JsonWrite) : Prop := u.column = w.column ∧ (u.keys <+: w.keys ∨ w.keys <+: u.keys)

instance (u w : JsonWrite) : Decidable (u.Touches w) := by unfold Touches; infer_instance

/-- The same value is written at the same path. -/
def Repeats (u w : JsonWrite) : Prop := u.keys = w.keys ∧ u.value.toJson = w.value.toJson

/-- A value outlives what is written after it: the last of this that touches it repeats it. -/
def Outlives (w : JsonWrite) (later : List JsonWrite) : Prop :=
  ∀ u ∈ (later.filter (·.Touches w)).getLast?, u.Repeats w

/-! ### one value -/

variable {groups : Dialect.JsonGroups} {u w : JsonWrite}

lemma valueAt?_into (h : u.column = w.column) (keys : List String) :
    valueAt? (u.into groups) w.column keys =
      Json.at? (Json.put ((groups.lookup w.column).getD []) u.keys u.value.toJson) keys := by
  rw [valueAt?, into, h, lookup_insertEntry, if_pos rfl]
  rfl

lemma valueAt?_into_self (groups : Dialect.JsonGroups) (w : JsonWrite) :
    valueAt? (w.into groups) w.column w.keys = some w.value.toJson := by
  rw [valueAt?_into rfl, Json.at?_put_self _ _ w.keys_ne_nil]

/-- What does not touch a value leaves it as it is. -/
lemma valueAt?_into_of_not_touches (h : ¬ u.Touches w) :
    valueAt? (u.into groups) w.column w.keys = valueAt? groups w.column w.keys := by
  by_cases hcolumn : u.column = w.column
  · obtain ⟨hbelow, habove⟩ := not_or.1 fun hkeys => h ⟨hcolumn, hkeys⟩
    rw [valueAt?_into hcolumn, Json.at?_put_apart _ _ hbelow habove, valueAt?]
    cases groups.lookup w.column with
    | none => exact Json.at?_nil _
    | some members => rfl
  · rw [valueAt?, into, lookup_insertEntry, if_neg (Ne.symm hcolumn)]
    rfl

/-- What touches a value leaves it there only by repeating it. -/
lemma valueAt?_into_of_touches (h : u.Touches w) :
    valueAt? (u.into groups) w.column w.keys = some w.value.toJson ↔ u.Repeats w := by
  obtain ⟨hcolumn, hkeys⟩ := h
  rw [valueAt?_into hcolumn]
  by_cases hsame : u.keys = w.keys
  · rw [hsame, Json.at?_put_self _ _ w.keys_ne_nil, Option.some_inj]
    exact (and_iff_right hsame).symm
  · refine iff_of_false (fun hvalue => ?_) fun hrepeats => hsame hrepeats.1
    rcases hkeys with hbelow | habove
    · rw [Json.at?_put_below _ _ u.value.toJson_ne_object u.keys_ne_nil hbelow hsame] at hvalue
      cases hvalue
    · obtain ⟨inner, hinner⟩ := Json.at?_put_above ((groups.lookup w.column).getD []) u.value.toJson w.keys_ne_nil
        habove (Ne.symm hsame)
      rw [hinner] at hvalue
      exact w.value.toJson_ne_object inner (Option.some.inj hvalue).symm

/-! ### all values -/

/-- A value that has been written is there in the end exactly if it outlives what is written later. -/
lemma valueAt?_foldl_iff (h : valueAt? groups w.column w.keys = some w.value.toJson) (later : List JsonWrite) :
    valueAt? (later.foldl into groups) w.column w.keys = some w.value.toJson ↔ w.Outlives later := by
  -- the last value decides alone if it touches this one, and else the ones before it do
  induction later using List.reverseRecOn with
  | nil => exact iff_of_true h fun u hu => by cases hu
  | append_singleton later u ih =>
    rw [List.foldl_append, List.foldl_cons, List.foldl_nil]
    by_cases htouches : u.Touches w
    · rw [valueAt?_into_of_touches htouches]
      have hlast : ((later ++ [u]).filter (·.Touches w)).getLast? = some u := by
        simp [List.filter_append, htouches]
      rw [Outlives, hlast]
      exact ⟨fun hrepeats _ hu => Option.some.inj hu ▸ hrepeats, fun houtlives => houtlives u rfl⟩
    · rw [valueAt?_into_of_not_touches htouches, ih, Outlives, Outlives, List.filter_append,
        List.filter_cons_of_neg (by simpa using htouches), List.filter_nil, List.append_nil]

end JsonWrite

namespace Dialect

variable {d : Dialect}

lemma inOrder_jsonGroups (entries : List (String × Operand)) :
    InOrder (jsonGroups entries) ∧ ∀ group ∈ jsonGroups entries, InOrder group.2 := by
  unfold jsonGroups
  induction entries.filterMap JsonWrite.written? using List.reverseRecOn with
  | nil => exact ⟨.nil, List.forall_mem_nil _⟩
  | append_singleton sooner w ih =>
    obtain ⟨hgroups, hmembers⟩ := ih
    rw [List.foldl_append, List.foldl_cons, List.foldl_nil]
    refine ⟨inOrder_insertEntry _ _ hgroups, fun group hgroup => ?_⟩
    rcases mem_insertEntry hgroup with rfl | hgroup
    · refine Json.inOrder_put ?_ _ _
      cases hlookup : List.lookup w.column _ with
      | none => exact .nil
      | some members => exact hmembers _ (mem_of_lookup hlookup)
    · exact hmembers group hgroup

/-- A statement binds a value at a path into a column: the value is where the other keys lead to in the JSON text that
is bound for the first key. -/
def BindsAt (d : Dialect) (statement : Fragment) (column key : String) (path : List String) (value : Json) : Prop :=
  ∃ members tree, (key, tree) ∈ members ∧ (d.jsonAssignment column members).StandsIn statement ∧
    (insertion (key, tree)).StandsIn (d.jsonAssignment column members) ∧ tree.follow path = some value

lemma valueAt?_jsonGroups_iff (sooner : List (String × Operand)) (s : JsonSelector) (v : Value)
    (later : List (String × Operand)) :
    valueAt? (jsonGroups (sooner ++ (s.text, .value v) :: later)) (lastSegment s.column) s.keys = some v.toJson ↔
      (JsonWrite.ofSelector s v).Outlives (later.filterMap JsonWrite.written?) := by
  rw [jsonGroups, List.filterMap_append, List.filterMap_cons_some (JsonWrite.written?_text s v), List.foldl_append,
    List.foldl_cons]
  exact JsonWrite.valueAt?_foldl_iff (JsonWrite.valueAt?_into_self _ (JsonWrite.ofSelector s v)) _

/-- What is there in the end is bound in the statement. -/
lemma bindsAt_of_valueAt? {q : Query} {values : RowValues} {updated : Fragment} (h : d.update q values = .ok updated)
    {column key : String} {path : List String} {value : Json}
    (hvalue : valueAt? (jsonGroups values.entries) column (key :: path) = some value) :
    d.BindsAt updated column key path value := by
  obtain ⟨members, hlookup, hvalue⟩ := Option.bind_eq_some_iff.1 hvalue
  rw [Json.at?_eq_follow] at hvalue
  obtain ⟨tree, htree, hvalue⟩ := Option.bind_eq_some_iff.1 hvalue
  have hgroup : (column, members) ∈ jsonGroups values.entries := mem_of_lookup hlookup
  have hmember : (key, tree) ∈ members := mem_of_lookup htree
  have hinsertion : (insertion (key, tree)).StandsIn (d.jsonAssignment column members) :=
    standsIn_jsonAssignment _ hmember
  have hassignment := standsIn_update h hgroup
  exact ⟨members, tree, hmember, hassignment, hinsertion, hvalue⟩

/-- **An update keeps the values at JSON selectors that outlive what is written after them, and no others.**  Each
column has one assignment, and each key of it one JSON text; in this the other keys lead to a value that is kept. -/
theorem keeps_iff_outlives {q : Query} {values : RowValues} {updated : Fragment} (h : d.update q values = .ok updated) :
    (InOrder (jsonGroups values.entries) ∧ ∀ group ∈ jsonGroups values.entries, InOrder group.2 ∧
      (d.jsonAssignment group.1 group.2).StandsIn updated) ∧
    ∀ sooner s v later, values.entries = sooner ++ (s.text, .value v) :: later →
      (valueAt? (jsonGroups values.entries) (lastSegment s.column) s.keys = some v.toJson ↔
        (JsonWrite.ofSelector s v).Outlives (later.filterMap JsonWrite.written?)) ∧
      ((JsonWrite.ofSelector s v).Outlives (later.filterMap JsonWrite.written?) →
        d.BindsAt updated (lastSegment s.column) (Text.trim s.first) (s.rest.map Text.trim) v.toJson) := by
  obtain ⟨hgroups, hmembers⟩ := inOrder_jsonGroups values.entries
  refine ⟨⟨hgroups, fun group hgroup => ⟨hmembers group hgroup, standsIn_update h hgroup⟩⟩,
    fun sooner s v later hentries => ?_⟩
  have hiff := valueAt?_jsonGroups_iff sooner s v later
  rw [← hentries] at hiff
  exact ⟨hiff, fun houtlives => bindsAt_of_valueAt? h (hiff.2 houtlives)⟩

theorem keeps_iff_outlives_guest :
    let d : Dialect := ⟨{}, .lenient⟩
    let q : Query := { Query.empty with source := some (.name "guest") }
    let updated : Fragment := ⟨"update GUEST set NOTE = object_insert(coalesce(NOTE, object_construct()), 'room', "
      ++ "parse_json(?), true)", [.text "\x7b\"door\":7,\"floor\":2\x7d"]⟩
    d.update q (.ofValues [("note->room->door", .int 7), ("note->room->floor", .int 2)]) = .ok updated ∧
      d.BindsAt updated "note" "room" ["door"] (.int 7) := by
  intro d q updated
  let s : JsonSelector := ⟨"note", "room", ["door"], by decide, by decide⟩
  have hupdated : d.update q (.ofValues [("note->room->door", .int 7), ("note->room->floor", .int 2)]) =
      .ok updated := by
    decide +kernel
  obtain ⟨-, hkeeps⟩ := keeps_iff_outlives hupdated
  have hlast : (([("note->room->floor", Operand.value (.int 2))].filterMap JsonWrite.written?).filter
      (·.Touches (JsonWrite.ofSelector s (.int 7)))).getLast? = none := by decide +kernel
  have hbinds := (hkeeps [] s (.int 7) [("note->room->floor", .value (.int 2))] rfl).2 fun u hu => by
    rw [hlast] at hu
    cases hu
  have hcolumn : lastSegment s.column = "note" := by decide +kernel
  have hkeys : s.keys = ["room", "door"] := by decide +kernel
  obtain ⟨hfirst, hrest⟩ := List.cons.inj hkeys
  rw [hcolumn, hfirst, hrest] at hbinds
  exact ⟨hupdated, hbinds⟩

/-- A value is lost where another one is written below it later. -/
theorem exists_value_lost :
    let d : Dialect := ⟨{}, .lenient⟩
    let q : Query := { Query.empty with source := some (.name "guest") }
    let values : RowValues := .ofValues [("note->room", .int 7), ("note->room->floor", .int 2)]
    let updated : Fragment := ⟨"update GUEST set NOTE = object_insert(coalesce(NOTE, object_construct()), 'room', "
      ++ "parse_json(?), true)", [.text "\x7b\"floor\":2\x7d"]⟩
    d.update q values = .ok updated ∧ ("note->room", .value (.int 7)) ∈ values.entries ∧
      ¬ d.BindsAt updated "note" "room" [] (Value.int 7).toJson := by
  intro d q values updated
  refine ⟨by decide +kernel, by decide +kernel, ?_⟩
  rintro ⟨members, tree, -, hassignment, hinsertion, htree⟩
  obtain rfl : tree = .int 7 := Option.some.inj htree
  have hbound := (hinsertion.trans hassignment).bindings_subset (List.mem_singleton_self _)
  exact absurd hbound (by decide +kernel)

end Dialect

end WarehouseSql
