/-!
Records: finite maps from names to values, kept in the order of the names, so that equal records have equal
entries.  `insertEntry` puts one entry in its place and takes the place of an entry of the same name.
-/

namespace WarehouseSql

/-- The entries with one more; an entry of the same key gives way. -/
def insertEntry {κ α : Type} [LT κ] [DecidableLT κ] [DecidableEq κ] (key : κ) (value : α) :
    List (κ × α) → List (κ × α)
  | [] => [(key, value)]
  | (k, v) :: rest =>
    if key < k then (key, value) :: (k, v) :: rest
    else if key = k then (key, value) :: rest
    else (k, v) :: insertEntry key value rest

/-- The entries in the order of their names, the last of each name. -/
def sortEntries {α : Type} (entries : List (String × α)) : List (String × α) :=
  entries.foldl (fun sorted entry => insertEntry entry.1 entry.2 sorted) []

/-- Entries in strictly increasing order of their names. -/
def InOrder {α : Type} (entries : List (String × α)) : Prop :=
  entries.Pairwise fun a b => a.1 < b.1

theorem mem_insertEntry {α : Type} {key : String} {value : α} {entries : List (String × α)}
    {entry : String × α} (h : entry ∈ insertEntry key value entries) :
    entry = (key, value) ∨ entry ∈ entries := by
  induction entries with
  | nil => simpa [insertEntry] using h
  | cons head rest ih =>
    obtain ⟨k, v⟩ := head
    simp only [insertEntry] at h
    split at h
    · simpa using h
    · split at h
      · rcases List.mem_cons.1 h with h | h
        · exact .inl h
        · exact .inr (List.mem_cons_of_mem _ h)
      · rcases List.mem_cons.1 h with h | h
        · exact .inr (h ▸ List.mem_cons_self)
        · exact (ih h).imp_right (List.mem_cons_of_mem _)

theorem inOrder_insertEntry {α : Type} (key : String) (value : α) {entries : List (String × α)}
    (h : InOrder entries) : InOrder (insertEntry key value entries) := by
  induction entries with
  | nil => simp [insertEntry, InOrder]
  | cons head rest ih =>
    obtain ⟨k, v⟩ := head
    obtain ⟨hhead, hrest⟩ := List.pairwise_cons.1 h
    simp only [insertEntry]
    split
    · next hlt =>
      refine List.pairwise_cons.2 ⟨fun entry hentry => ?_, h⟩
      rcases List.mem_cons.1 hentry with rfl | hentry
      · exact hlt
      · exact String.lt_trans hlt (hhead entry hentry)
    -- the head stays in front of the entry, or gives way to it
    · next hlt =>
      split
      · next heq =>
        subst heq
        exact List.pairwise_cons.2 ⟨fun entry hentry => hhead entry hentry, hrest⟩
      · next hne =>
        have hgt : k < key := by
          rcases Decidable.em (k < key) with h | h
          · exact h
          · exact absurd (String.le_antisymm h hlt) hne
        refine List.pairwise_cons.2 ⟨fun entry hentry => ?_, ih hrest⟩
        rcases mem_insertEntry hentry with rfl | hentry
        · exact hgt
        · exact hhead entry hentry

theorem inOrder_sortEntries {α : Type} (entries : List (String × α)) : InOrder (sortEntries entries) := by
  suffices ∀ sorted : List (String × α), InOrder sorted →
      InOrder (entries.foldl (fun sorted entry => insertEntry entry.1 entry.2 sorted) sorted) from
    this [] List.Pairwise.nil
  induction entries with
  | nil => exact fun _ h => h
  | cons entry rest ih => exact fun sorted h => ih _ (inOrder_insertEntry _ _ h)

/-- A map from names to values. -/
structure Record (α : Type) where
  entries : List (String × α)
  inOrder : InOrder entries

namespace Record

variable {α : Type}

instance [DecidableEq α] : DecidableEq (Record α) := fun a b =>
  decidable_of_iff (a.entries = b.entries) ⟨fun h => by cases a; cases b; simp_all, congrArg entries⟩

def empty : Record α := ⟨[], List.Pairwise.nil⟩

/-- The record of a list of entries, the last of each name. -/
def ofList (entries : List (String × α)) : Record α := ⟨sortEntries entries, inOrder_sortEntries entries⟩

def insert (r : Record α) (key : String) (value : α) : Record α :=
  ⟨insertEntry key value r.entries, inOrder_insertEntry key value r.inOrder⟩

def get? (r : Record α) (key : String) : Option α := r.entries.lookup key

def keys (r : Record α) : List String := r.entries.map Prod.fst

def values (r : Record α) : List α := r.entries.map Prod.snd

def isEmpty (r : Record α) : Bool := r.entries.isEmpty

end Record

end WarehouseSql
