import WarehouseSql.Json.Path
import WarehouseSql.Proofs.Statement.Given

/-!
Writing into objects and looking up by path.  **What is written at a path stands there, and whatever stands at a path
apart from it stays** (`Json.at?_put_self`, `Json.at?_put_apart`).  Of two paths one of which begins with the other only
the one written last holds its value: at a path above stands an object then (`Json.at?_put_above`), at a path below
nothing (`Json.at?_put_below`).  Values at one path replace each other and values at paths apart may be written in
either order, so **writing by path obeys the laws of a store** (`Json.put_stores`).
-/

namespace WarehouseSql

/-! ### inserting twice -/

section

variable {α : Type} {key other : String} (entries : List (String × α))

/-- An entry gives way to one of its key. -/
lemma insertEntry_insertEntry (key : String) (value later : α) :
    insertEntry key later (insertEntry key value entries) = insertEntry key later entries := by
  induction entries with
  | nil => simp [insertEntry]
  | cons entry entries ih =>
    obtain ⟨k, v⟩ := entry
    by_cases hlt : key < k
    · simp [insertEntry, hlt]
    · by_cases heq : key = k
      · simp [insertEntry, heq]
      · simp [insertEntry, hlt, heq, ih]

lemma insertEntry_comm_of_lt (h : key < other) (value later : α) :
    insertEntry other later (insertEntry key value entries) =
      insertEntry key value (insertEntry other later entries) := by
  have hasymm : ¬ other < key := String.lt_asymm h
  have hne : other ≠ key := (String.ne_of_lt h).symm
  induction entries with
  | nil => simp [insertEntry, h, hasymm, hne]
  | cons entry entries ih =>
    obtain ⟨k, v⟩ := entry
    by_cases hlt : key < k
    · -- the smaller key goes in front of whatever stands first
      have hhead : insertEntry key value (insertEntry other later ((k, v) :: entries)) =
          (key, value) :: insertEntry other later ((k, v) :: entries) := by
        rw [insertEntry]
        split_ifs <;> rw [insertEntry, if_pos ‹_›]
      rw [hhead, insertEntry, if_pos hlt, insertEntry, if_neg hasymm, if_neg hne]
    · by_cases heq : key = k
      · subst heq
        simp [insertEntry, hasymm, hne]
      · have hother : k < other := Std.lt_of_le_of_lt (String.not_lt.1 hlt) h
        simp [insertEntry, hlt, heq, String.lt_asymm hother, (String.ne_of_lt hother).symm, ih]

/-- Entries of different keys may be inserted in either order. -/
lemma insertEntry_comm (h : key ≠ other) (value later : α) :
    insertEntry other later (insertEntry key value entries) =
      insertEntry key value (insertEntry other later entries) := by
  by_cases hlt : key < other
  · exact insertEntry_comm_of_lt entries hlt value later
  · have hgt : other < key := Std.lt_of_le_of_ne (String.not_lt.1 hlt) h.symm
    exact (insertEntry_comm_of_lt entries hgt later value).symm

end

namespace Json

/-! ### one key -/

/-- The members of the object under a key; none if there is no object. -/
def under (members : List (String × Json)) (key : String) : List (String × Json) :=
  ((members.lookup key).map Json.members).getD []

lemma put_cons {path : List String} (hpath : path ≠ []) (members : List (String × Json)) (key : String) (value : Json) :
    put members (key :: path) value = insertEntry key (.object (put (under members key) path value)) members := by
  cases path with
  | nil => exact absurd rfl hpath
  | cons next rest => rfl

/-- What is put under a first key, given the members of the object that it leads to. -/
def placed (inner : List (String × Json)) (path : List String) (value : Json) : Json :=
  if path = [] then value else .object (put inner path value)

lemma put_eq_insertEntry (members : List (String × Json)) (key : String) (path : List String) (value : Json) :
    put members (key :: path) value = insertEntry key (placed (under members key) path value) members := by
  by_cases hpath : path = []
  · subst hpath
    rfl
  · rw [put_cons hpath, placed, if_neg hpath]

lemma at?_nil (path : List String) : at? [] path = none := by
  rcases path with - | ⟨first, - | ⟨second, rest⟩⟩
  · rfl
  · rfl
  · rfl

/-- A longer path goes on in the object under its first key. -/
lemma at?_cons {path : List String} (hpath : path ≠ []) (members : List (String × Json)) (key : String) :
    at? members (key :: path) = at? (under members key) path := by
  cases path with
  | nil => exact absurd rfl hpath
  | cons next rest =>
    rw [at?, under]
    cases members.lookup key with
    | none => exact (at?_nil _).symm
    | some value =>
      cases value with
      | object inner => rfl
      | _ => exact (at?_nil _).symm

lemma under_insertEntry (members : List (String × Json)) (key : String) (value : Json) :
    under (insertEntry key value members) key = value.members := by
  rw [under, lookup_insertEntry, if_pos rfl]
  rfl

lemma under_insertEntry_of_ne {key other : String} (hne : other ≠ key) (members : List (String × Json)) (value : Json) :
    under (insertEntry key value members) other = under members other := by
  rw [under, under, lookup_insertEntry, if_neg hne]

lemma at?_insertEntry_of_ne {key other : String} (hne : other ≠ key) (members : List (String × Json)) (value : Json)
    (path : List String) : at? (insertEntry key value members) (other :: path) = at? members (other :: path) := by
  cases path with
  | nil => rw [at?, at?, lookup_insertEntry, if_neg hne]
  | cons next rest =>
    rw [at?_cons (List.cons_ne_nil _ _), at?_cons (List.cons_ne_nil _ _), under_insertEntry_of_ne hne]

/-- The value to which a path leads from a value. -/
def follow (value : Json) (path : List String) : Option Json :=
  if path = [] then some value else at? value.members path

lemma at?_eq_follow (members : List (String × Json)) (key : String) (path : List String) :
    at? members (key :: path) = (members.lookup key).bind (follow · path) := by
  by_cases hpath : path = []
  · subst hpath
    cases h : members.lookup key with
    | none => exact h
    | some value => exact h
  · rw [at?_cons hpath, under]
    cases members.lookup key with
    | none => exact at?_nil path
    | some value => exact (if_neg hpath).symm

lemma inOrder_put {members : List (String × Json)} (h : InOrder members) (path : List String) (value : Json) :
    InOrder (put members path value) := by
  rcases path with - | ⟨key, - | ⟨next, rest⟩⟩
  · exact h
  · exact inOrder_insertEntry _ _ h
  · exact inOrder_insertEntry _ _ h

/-- A value under keys, one object in another. -/
def nested (path : List String) (value : Json) : Json :=
  match path with
  | [] => value
  | key :: path => .object [(key, nested path value)]

/-- Where there is nothing yet, writing makes the objects on the way. -/
lemma put_nil_cons (key : String) (path : List String) (value : Json) :
    put [] (key :: path) value = [(key, nested path value)] := by
  induction path generalizing key with
  | nil => rfl
  | cons next path ih =>
    rw [put_cons (List.cons_ne_nil _ _), nested, ← ih next]
    rfl

/-! ### one path -/

section

variable {path other : List String} (members : List (String × Json)) (value : Json)

theorem at?_put_self (hpath : path ≠ []) : at? (put members path value) path = some value := by
  induction path generalizing members with
  | nil => exact absurd rfl hpath
  | cons key path ih =>
    by_cases hrest : path = []
    · subst hrest
      rw [put, at?, lookup_insertEntry, if_pos rfl]
    · rw [put_cons hrest, at?_cons hrest, under_insertEntry]
      exact ih _ hrest

/-- Above a path that is written stands an object. -/
theorem at?_put_above (hother : other ≠ []) (hbegins : other <+: path) (hne : other ≠ path) :
    ∃ inner, at? (put members path value) other = some (.object inner) := by
  induction path generalizing members other with
  | nil => exact absurd (List.prefix_nil.1 hbegins) hother
  | cons key path ih =>
    obtain ⟨rest, rfl, hrest⟩ := (List.prefix_cons_iff.1 hbegins).resolve_left hother
    have hpath : path ≠ [] := by
      rintro rfl
      exact hne (congrArg _ (List.prefix_nil.1 hrest))
    rw [put_cons hpath]
    by_cases hend : rest = []
    · subst hend
      rw [at?, lookup_insertEntry, if_pos rfl]
      exact ⟨_, rfl⟩
    · rw [at?_cons hend, under_insertEntry]
      exact ih _ hend hrest fun h => hne (congrArg _ h)

/-- Below a path at which something other than an object is written stands nothing. -/
theorem at?_put_below (hvalue : ∀ inner, value ≠ .object inner) (hpath : path ≠ []) (hbegins : path <+: other)
    (hne : path ≠ other) : at? (put members path value) other = none := by
  have hmembers : value.members = [] := by
    cases value with
    | object inner => exact absurd rfl (hvalue inner)
    | _ => rfl
  induction path generalizing members other with
  | nil => exact absurd rfl hpath
  | cons key path ih =>
    obtain ⟨rest, rfl⟩ := hbegins
    rw [List.cons_append]
    by_cases hend : path = []
    · subst hend
      have hrest : rest ≠ [] := by
        rintro rfl
        exact hne rfl
      rw [put, List.nil_append, at?_cons hrest, under_insertEntry, hmembers, at?_nil]
    · have hrest : path ++ rest ≠ [] := fun h => hend (List.append_eq_nil_iff.1 h).1
      rw [put_cons hend, at?_cons hrest, under_insertEntry]
      exact ih _ hend (List.prefix_append path rest) fun h => hne (congrArg _ h)

/-- What stands at a path apart from the one that is written stays. -/
theorem at?_put_apart (hbelow : ¬ path <+: other) (habove : ¬ other <+: path) :
    at? (put members path value) other = at? members other := by
  induction path generalizing members other with
  | nil => exact absurd (List.nil_prefix) hbelow
  | cons key path ih =>
    cases other with
    | nil => exact absurd List.nil_prefix habove
    | cons first rest =>
      by_cases hfirst : first = key
      · subst hfirst
        rw [List.cons_prefix_cons] at hbelow habove
        have hpath : path ≠ [] := by
          rintro rfl
          exact hbelow ⟨rfl, List.nil_prefix⟩
        have hrest : rest ≠ [] := by
          rintro rfl
          exact habove ⟨rfl, List.nil_prefix⟩
        rw [put_cons hpath, at?_cons hrest, at?_cons hrest, under_insertEntry]
        exact ih _ (fun h => hbelow ⟨rfl, h⟩) fun h => habove ⟨rfl, h⟩
      · rw [put_eq_insertEntry, at?_insertEntry_of_ne hfirst]

end

/-! ### two paths -/

/-- Two paths of which neither begins with the other. -/
def Apart (path other : List String) : Prop := ¬ path <+: other ∧ ¬ other <+: path

instance (path other : List String) : Decidable (Apart path other) := by unfold Apart; infer_instance

lemma put_put (members : List (String × Json)) (path : List String) (value later : Json) :
    put (put members path value) path later = put members path later := by
  induction path generalizing members with
  | nil => rfl
  | cons key path ih =>
    rw [put_eq_insertEntry, put_eq_insertEntry, put_eq_insertEntry, under_insertEntry, insertEntry_insertEntry]
    congr 1
    by_cases hpath : path = []
    · simp [placed, hpath]
    · simp only [placed, if_neg hpath, Json.members, ih]

lemma put_comm {path other : List String} (h : Apart path other) (members : List (String × Json)) (value later : Json) :
    put (put members path value) other later = put (put members other later) path value := by
  induction path generalizing members other with
  | nil => exact absurd List.nil_prefix h.1
  | cons key path ih =>
    cases other with
    | nil => exact absurd List.nil_prefix h.2
    | cons first rest =>
      rw [put_eq_insertEntry, put_eq_insertEntry, put_eq_insertEntry, put_eq_insertEntry]
      by_cases hfirst : first = key
      · subst hfirst
        rw [Apart, List.cons_prefix_cons, List.cons_prefix_cons] at h
        have hpath : path ≠ [] := by
          rintro rfl
          exact h.1 ⟨rfl, List.nil_prefix⟩
        have hrest : rest ≠ [] := by
          rintro rfl
          exact h.2 ⟨rfl, List.nil_prefix⟩
        have hinner := ih ⟨fun hp => h.1 ⟨rfl, hp⟩, fun hp => h.2 ⟨rfl, hp⟩⟩ (under members first)
        rw [under_insertEntry, under_insertEntry, insertEntry_insertEntry, insertEntry_insertEntry]
        simp only [placed, if_neg hpath, if_neg hrest, Json.members, hinner]
      · rw [under_insertEntry_of_ne hfirst, under_insertEntry_of_ne (Ne.symm hfirst),
          insertEntry_comm _ (Ne.symm hfirst)]

/-- **Writing by path obeys the laws of a store**, whatever the members are: what is written at a path stands there, and
what stands at a path apart from it stays; of two values written at one path the last is kept, and at two paths apart
from each other it does not matter which is written first.  The keys of a path are taken as they are: an update has
trimmed them before it writes (`Dialect.pathKeys`). -/
theorem put_stores {path : List String} (hpath : path ≠ []) (members : List (String × Json)) (value : Json) :
    at? (put members path value) path = some value ∧
    (∀ other, Apart path other → at? (put members path value) other = at? members other) ∧
    (∀ later, put (put members path value) path later = put members path later) ∧
    ∀ other later, Apart path other →
      put (put members path value) other later = put (put members other later) path value :=
  ⟨at?_put_self members value hpath, fun _ hother => at?_put_apart members value hother.1 hother.2,
    put_put members path value, fun _ later hother => put_comm hother members value later⟩

/-- A number stands on the way. -/
theorem put_stores_rooms :
    let rooms : List (String × Json) := [("door", .int 7), ("room", .int 2)]
    let path := ["room", "door"]
    let other := ["room", "bed"]
    path ≠ [] ∧ Apart path other ∧ at? (put rooms path .null) path = some .null ∧
      at? (put rooms path .null) other = at? rooms other ∧
      put (put rooms path .null) path (.int 3) = put rooms path (.int 3) ∧
      put (put rooms path .null) other (.int 3) = put (put rooms other (.int 3)) path .null := by
  intro rooms path other
  have hpath : path ≠ [] := by decide
  have hother : Apart path other := by decide
  obtain ⟨hself, hapart, hlast, horder⟩ := put_stores hpath rooms .null
  exact ⟨hpath, hother, hself, hapart other hother, hlast (.int 3), horder other (.int 3) hother⟩

end Json

end WarehouseSql
