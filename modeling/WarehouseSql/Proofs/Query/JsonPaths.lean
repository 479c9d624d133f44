import WarehouseSql.Proofs.Fragment.Nesting
import WarehouseSql.Proofs.Json.Path
import WarehouseSql.Proofs.Name.Selectors
import WarehouseSql.Proofs.Query.Restrictions

/-!
How values are written at JSON selectors.  They are written one after another into objects by column
(`Dialect.sortAssignments_eq_ok`), and each of these has its assignment in the statement, however the statement is
restricted (`Dialect.standsIn_update`), with the JSON text of each key (`Dialect.standsIn_jsonAssignment`).

A selector is read by the path of its keys.  **The path is read under which a value is written exactly if no key has
quotes at its ends and the first is no star** (`Dialect.read_where_written_iff`).
-/

namespace WarehouseSql

/-! ### parts of statements -/

namespace Fragment

/-- A fragment stands in another one, with its text and its bindings. -/
def StandsIn (f g : Fragment) : Prop := ∃ before after, g = before ++ f ++ after

namespace StandsIn

variable {f g h : Fragment}

lemma around (before f after : Fragment) : f.StandsIn (before ++ f ++ after) := ⟨before, after, rfl⟩

lemma refl (f : Fragment) : f.StandsIn f :=
  ⟨.empty, .empty, (Fragment.mk.injEq ..).mpr ⟨by simp [Fragment.empty], by simp [Fragment.empty]⟩⟩

lemma trans (hf : f.StandsIn g) (hg : g.StandsIn h) : f.StandsIn h := by
  obtain ⟨before, after, rfl⟩ := hf
  obtain ⟨before', after', rfl⟩ := hg
  exact ⟨before' ++ before, after ++ after', by simp only [append_assoc]⟩

lemma left (hf : f.StandsIn g) (after : Fragment) : f.StandsIn (g ++ after) := by
  obtain ⟨before, after', rfl⟩ := hf
  exact ⟨before, after' ++ after, by simp only [append_assoc]⟩

lemma right (hf : f.StandsIn g) (before : Fragment) : f.StandsIn (before ++ g) := by
  obtain ⟨before', after, rfl⟩ := hf
  exact ⟨before ++ before', after, by simp only [append_assoc]⟩

lemma bindings_subset (hf : f.StandsIn g) : f.bindings ⊆ g.bindings := by
  obtain ⟨before, after, rfl⟩ := hf
  intro value hvalue
  exact List.mem_append_left _ (List.mem_append_right _ hvalue)

lemma join (separator : String) {fs : List Fragment} (hf : f ∈ fs) : f.StandsIn (join separator fs) := by
  induction fs with
  | nil => exact absurd hf List.not_mem_nil
  | cons first rest ih =>
    cases rest with
    | nil =>
      obtain rfl := List.mem_singleton.1 hf
      have hjoin : Fragment.join separator [f] = f := (Fragment.mk.injEq ..).mpr ⟨by simp, by simp⟩
      rw [hjoin]
      exact .refl f
    | cons second rest =>
      rw [join_cons]
      rcases List.mem_cons.1 hf with rfl | hf
      · exact ((refl f).left _).left _
      · exact (ih hf).right _

end StandsIn

end Fragment

/-! ### what is written -/

def RowValues.ofValues (values : List (String × Value)) : RowValues :=
  Record.ofList (values.map fun entry => (entry.1, .value entry.2))

/-- A value to be written at a path into a JSON column. -/
structure JsonWrite where
  column : String
  keys : List String
  value : Value
  keys_ne_nil : keys ≠ []

namespace JsonWrite

def ofSelector (s : JsonSelector) (v : Value) : JsonWrite :=
  ⟨Dialect.lastSegment s.column, s.keys, v, List.cons_ne_nil _ _⟩

lemma pathKeys_ne_nil (path : List Char) : Dialect.pathKeys path ≠ [] := fun h =>
  Text.splitOnArrow_ne_nil path (List.map_eq_nil_iff.1 h)

/-- What an entry of a record writes into a JSON column. -/
def written? : String × Operand → Option JsonWrite
  | (_, .raw _) => none
  | (name, .value v) =>
    (Text.cutAtArrow name.toList).map fun parts =>
      ⟨Dialect.lastSegment (String.ofList parts.1), Dialect.pathKeys parts.2, v, pathKeys_ne_nil parts.2⟩

lemma pathKeys_path (s : JsonSelector) : Dialect.pathKeys s.path.toList = s.keys := by
  rw [Dialect.pathKeys, s.splitOnArrow_path, JsonSelector.keys, List.map_map]
  refine List.map_congr_left fun key _ => ?_
  rw [Function.comp_apply, String.ofList_toList]

lemma written?_text (s : JsonSelector) (v : Value) : written? (s.text, .value v) = some (ofSelector s v) := by
  simp only [written?, s.cutAtArrow_text, Option.map_some, ofSelector, pathKeys_path, String.ofList_toList]

/-- The objects for JSON columns with one more value. -/
def into (groups : Dialect.JsonGroups) (w : JsonWrite) : Dialect.JsonGroups :=
  insertEntry w.column (Json.put ((groups.lookup w.column).getD []) w.keys w.value.toJson) groups

end JsonWrite

namespace Dialect

open Fragment (ending)

variable {d : Dialect}

/-- The objects into which the values at JSON selectors are written, in the order of the entries. -/
def jsonGroups (entries : List (String × Operand)) : JsonGroups :=
  (entries.filterMap JsonWrite.written?).foldl JsonWrite.into []

/-- The values for JSON columns are written one after another. -/
lemma sortAssignments_eq_ok {entries : List (String × Operand)} {groups sorted : JsonGroups} {plain : List Fragment}
    (h : d.sortAssignments entries groups = .ok (plain, sorted)) :
    sorted = (entries.filterMap JsonWrite.written?).foldl JsonWrite.into groups := by
  induction entries generalizing groups plain with
  | nil =>
    cases h
    rfl
  | cons entry entries ih =>
    obtain ⟨name, operand⟩ := entry
    rw [sortAssignments.eq_def] at h
    dsimp only at h
    split at h
    · cases h
    · next column path v hcut =>
      have hwrite : JsonWrite.written? (name, .value v) =
          some ⟨lastSegment (String.ofList column), pathKeys path, v, JsonWrite.pathKeys_ne_nil path⟩ := by
        rw [JsonWrite.written?, hcut]
        rfl
      rw [ih h, List.filterMap_cons_some hwrite]
      rfl
    · next operand hcut =>
      obtain ⟨⟨plain', sorted'⟩, hsorted, h⟩ := Compiled.bind_eq_ok.1 h
      obtain rfl : sorted' = sorted := congrArg Prod.snd (Except.ok.inj h)
      have hwrite : ∀ operand, JsonWrite.written? (name, operand) = none := by
        intro operand
        cases operand with
        | raw sql => rfl
        | value v =>
          rw [JsonWrite.written?, hcut]
          rfl
      rw [ih hsorted, List.filterMap_cons_none (hwrite _)]

/-! ### how it is written -/

/-- What the assignment of a JSON column says of one key. -/
def insertion (member : String × Json) : Fragment :=
  ⟨", " ++ Policy.stringLiteral member.1 ++ ", parse_json(?), true)", [.text member.2.print]⟩

lemma jsonAssignment_eq (column : String) (members : List (String × Json)) :
    d.jsonAssignment column members =
      Fragment.text (d.policy.identifier column ++ " = ") ++ members.foldl
        (fun expression member => Fragment.text "object_insert(" ++ expression ++ insertion member)
        (Fragment.text ("coalesce(" ++ d.policy.identifier column ++ ", object_construct())")) := by
  have hstep : ∀ (expression : Fragment) (member : String × Json),
      Fragment.text "object_insert(" ++ expression
            ++ Fragment.text (", " ++ Policy.stringLiteral member.1 ++ ", parse_json(")
            ++ ⟨"?", [.text member.2.print]⟩ ++ "), true)" =
        Fragment.text "object_insert(" ++ expression ++ insertion member := by
    intro expression member
    refine (Fragment.mk.injEq ..).mpr ⟨?_, ?_⟩
    · simp [insertion, String.append_assoc]
    · simp [insertion]
  rw [jsonAssignment]
  simp only [hstep]

/-- What is wrapped around an expression leaves it as it is. -/
lemma standsIn_foldl (members : List (String × Json)) (expression : Fragment) :
    expression.StandsIn (members.foldl
      (fun expression member => Fragment.text "object_insert(" ++ expression ++ insertion member) expression) := by
  induction members generalizing expression with
  | nil => exact .refl _
  | cons member members ih => exact (Fragment.StandsIn.around _ _ _).trans (ih _)

lemma standsIn_jsonAssignment (column : String) {members : List (String × Json)} {member : String × Json}
    (h : member ∈ members) : (insertion member).StandsIn (d.jsonAssignment column members) := by
  obtain ⟨sooner, later, rfl⟩ := List.append_of_mem h
  rw [jsonAssignment_eq, List.foldl_append, List.foldl_cons]
  exact (((Fragment.StandsIn.refl _).right _).trans (standsIn_foldl later _)).right _

lemma ends_jsonAssignment (column : String) (members : List (String × Json)) :
    Ends (d.jsonAssignment column members).sql := by
  rw [jsonAssignment_eq, Fragment.sql_append]
  refine .append _ ?_
  induction members using List.reverseRecOn with
  | nil => exact .append _ (by decide)
  | append_singleton members member =>
    rw [List.foldl_append]
    exact .append _ (.append _ (by decide))

/-- A change without blanks at its ends stands in its statement, however it is restricted. -/
lemma standsIn_restricted {q : Query} {change statement : Fragment} (hchange : Edged change.sql)
    (h : d.restricted q change = .ok statement) : change.StandsIn statement := by
  by_cases hrows : q.joins ≠ [] ∨ q.limit ≠ none
  · obtain ⟨source, label, selection, parts, -, -, -, -, -, rfl⟩ := restrictedByRows hrows h
    exact (((Fragment.StandsIn.refl change).left _).left _).left _
  · obtain ⟨hjoins, hlimit⟩ := not_or.1 hrows
    have htrim : Text.trim change.sql ≠ "" := by
      rw [hchange.trim_eq]
      intro hempty
      have hbegins := hchange.begins
      rw [hempty] at hbegins
      exact absurd hbegins (by decide)
    obtain ⟨conditions, -, rfl⟩ := exists_of_restricted (not_not.1 hjoins) (not_not.1 hlimit) htrim h
    exact ⟨.empty, ⟨ending (wherePart conditions), (wherePart conditions).bindings⟩,
      (Fragment.mk.injEq ..).mpr ⟨by simp [Fragment.empty, hchange.trim_eq], by simp [Fragment.empty]⟩⟩

/-- The assignments of the JSON columns come last. -/
lemma exists_of_assignments {values : RowValues} {assigned : Fragment} (h : d.assignments values = .ok assigned) :
    ∃ plain, assigned = Fragment.join ", "
      (plain ++ (jsonGroups values.entries).map fun group => d.jsonAssignment group.1 group.2) := by
  obtain ⟨⟨plain, groups⟩, hsorted, h⟩ := Compiled.bind_eq_ok.1 h
  obtain rfl : groups = jsonGroups values.entries := sortAssignments_eq_ok hsorted
  refine ⟨plain, ?_⟩
  dsimp only at h
  split_ifs at h
  · cases h
  · exact (Except.ok.inj h).symm

lemma ends_join {fs : List Fragment} (separator : String) (f : Fragment) (hf : Ends f.sql) :
    Ends (Fragment.join separator (fs ++ [f])).sql := by
  obtain ⟨before, hbefore⟩ := Text.exists_intercalate_concat separator (fs.map Fragment.sql) f.sql
  rw [Fragment.join, List.map_append, List.map_singleton, hbefore]
  exact .append _ hf

/-- Each JSON column that an update writes has its assignment in the statement. -/
lemma standsIn_update {q : Query} {values : RowValues} {updated : Fragment} (h : d.update q values = .ok updated)
    {group : String × List (String × Json)} (hgroup : group ∈ jsonGroups values.entries) :
    (d.jsonAssignment group.1 group.2).StandsIn updated := by
  obtain ⟨table, -, h⟩ := Compiled.bind_eq_ok.1 h
  obtain ⟨assigned, hassigned, h⟩ := Compiled.bind_eq_ok.1 h
  obtain ⟨plain, rfl⟩ := exists_of_assignments hassigned
  have hmem := List.mem_append_right plain
    (List.mem_map_of_mem (f := fun group => d.jsonAssignment group.1 group.2) hgroup)
  -- the JSON columns come last, so that the change ends in a bracket and trimming keeps it
  obtain ⟨groups, last, hgroups⟩ := (List.eq_nil_or_concat _).resolve_left (List.ne_nil_of_mem hgroup)
  have hends : Ends (Fragment.join ", "
      (plain ++ (jsonGroups values.entries).map fun group => d.jsonAssignment group.1 group.2)).sql := by
    rw [hgroups, List.concat_eq_append, List.map_append, List.map_singleton, ← List.append_assoc]
    exact ends_join _ _ (ends_jsonAssignment _ _)
  refine (((Fragment.StandsIn.join ", " hmem).right _).trans (standsIn_restricted ?_ h))
  exact ⟨(Begins.append (Begins.append (by decide) _) _).append _, .append _ hends⟩

/-! ### one selector -/

lemma exists_path_eq (policy : Policy) (column : String) :
    ∃ table, policy.path (Text.dotted column) = table ++ policy.identifier (lastSegment column) := by
  obtain ⟨segments, last, hsegments⟩ := (List.eq_nil_or_concat _).resolve_left (Text.dotted_ne_nil column)
  rw [List.concat_eq_append] at hsegments
  have hlast : lastSegment column = last := by rw [lastSegment, hsegments, List.getLastD_concat]
  rw [hsegments, hlast]
  rcases segments with - | ⟨table, segments⟩
  · exact ⟨"", by simp [Policy.path]⟩
  · obtain ⟨before, hbefore⟩ := Text.exists_intercalate_concat "."
      (policy.tableWithPrefix policy.tablePrefix table :: segments.map policy.identifier) (policy.identifier last)
    refine ⟨before, ?_⟩
    rw [← hbefore, List.cons_append, List.cons_append, ← List.map_singleton, ← List.map_append]
    cases segments <;> rfl

/-- The assignment of a value at a selector. -/
def assignmentAt (d : Dialect) (s : JsonSelector) (v : Value) : Fragment :=
  let name := d.policy.identifier (lastSegment s.column)
  ⟨name ++ " = object_insert(coalesce(" ++ name ++ ", object_construct()), " ++ Policy.stringLiteral (Text.trim s.first)
    ++ ", parse_json(?), true)", [.text (Json.nested (s.rest.map Text.trim) v.toJson).print]⟩

lemma assignments_selector (s : JsonSelector) (v : Value) :
    d.assignments (.ofValues [(s.text, v)]) = .ok (d.assignmentAt s v) := by
  have hentries : (RowValues.ofValues [(s.text, v)]).entries = [(s.text, .value v)] := rfl
  have hmembers : Json.put [] s.keys v.toJson = [(Text.trim s.first, Json.nested (s.rest.map Text.trim) v.toJson)] :=
    Json.put_nil_cons _ _ _
  have hsorted : d.sortAssignments [(s.text, .value v)] [] =
      .ok ([], [(lastSegment s.column, [(Text.trim s.first, Json.nested (s.rest.map Text.trim) v.toJson)])]) := by
    rw [sortAssignments.eq_def]
    simp only [s.cutAtArrow_text, String.ofList_toList, JsonWrite.pathKeys_path, List.lookup_nil, Option.getD_none,
      hmembers]
    rfl
  rw [assignments, hentries, hsorted]
  have hassignment : d.jsonAssignment (lastSegment s.column)
      [(Text.trim s.first, Json.nested (s.rest.map Text.trim) v.toJson)] = d.assignmentAt s v := by
    have hopens : " = object_insert(coalesce(" = " = " ++ "object_insert(" ++ "coalesce(" := by decide
    have hcloses : ", object_construct()), " = ", object_construct())" ++ ", " := by decide
    rw [jsonAssignment_eq, assignmentAt, hopens, hcloses]
    refine (Fragment.mk.injEq ..).mpr ⟨?_, rfl⟩
    simp only [List.foldl_cons, List.foldl_nil, insertion, Fragment.sql_append, Fragment.sql_text,
      String.append_assoc, -String.reduceAppend]
  rw [← hassignment]
  exact congrArg Except.ok ((Fragment.mk.injEq ..).mpr ⟨String.intercalate_singleton, List.append_nil _⟩)

lemma stringLiteral_eq_iff (name : String) : Policy.stringLiteral name = Text.quoteLiteral name ↔ name ≠ "*" := by
  rw [Policy.stringLiteral]
  split_ifs with h
  · rw [h]
    decide
  · exact iff_of_true rfl h

/-- **Reading and writing at a selector.**  A selector is looked up by its keys without quotes at their ends, with dots
between them, and a value is written under the keys as they are: the first in the assignment, the others in the bound
text.  The path is the same exactly if no key has quotes at its ends, and the first key is a literal exactly if it is no
star. -/
theorem read_where_written_iff (d : Dialect) (s : JsonSelector) (v : Value) :
    let readPath := String.intercalate "." (s.keys.map Text.unquoted)
    d.policy.jsonSelector s.text =
      "get_path(" ++ d.policy.path (Text.dotted s.column) ++ ", " ++ Text.quoteLiteral readPath ++ ")" ∧
    (∃ table, d.policy.path (Text.dotted s.column) = table ++ d.policy.identifier (lastSegment s.column)) ∧
    (∀ q, d.update q (.ofValues [(s.text, v)]) = d.target q >>= fun table =>
      d.restricted q (Fragment.text ("update " ++ table ++ " set ") ++ d.assignmentAt s v)) ∧
    (readPath = String.intercalate "." s.keys ↔ ∀ key ∈ s.keys, ¬ Text.IsQuoted key) ∧
    (Policy.stringLiteral (Text.trim s.first) = Text.quoteLiteral (Text.trim s.first) ↔ Text.trim s.first ≠ "*") := by
  intro readPath
  refine ⟨s.jsonSelector_text d.policy, exists_path_eq d.policy s.column, fun q => ?_, ?_, stringLiteral_eq_iff _⟩
  · rw [update, assignments_selector]
    rfl
  · refine (Text.intercalate_map_eq_iff (fun _ => Text.length_unquoted_lt) "." s.keys).trans ?_
    exact forall₂_congr fun key _ => Text.unquoted_eq_self_iff key

/-- A key in quotes is read without them and written with them, and a star is written without the quotes of a
literal. -/
theorem exists_read_elsewhere :
    let d : Dialect := ⟨{}, .lenient⟩
    let q : Query := { Query.empty with source := some (.name "guest") }
    (d.policy.jsonSelector "note->\"room\"" = "get_path(NOTE, 'room')" ∧
      d.update q (.ofValues [("note->\"room\"", .int 7)]) =
        .ok ⟨"update GUEST set NOTE = object_insert(coalesce(NOTE, object_construct()), "
          ++ "'\"room\"', parse_json(?), true)", [.text "7"]⟩) ∧
      d.policy.jsonSelector "note->*" = "get_path(NOTE, '*')" ∧
      d.update q (.ofValues [("note->*", .int 7)]) =
        .ok ⟨"update GUEST set NOTE = object_insert(coalesce(NOTE, object_construct()), "
          ++ "*, parse_json(?), true)", [.text "7"]⟩ := by
  decide +kernel

end Dialect

end WarehouseSql
