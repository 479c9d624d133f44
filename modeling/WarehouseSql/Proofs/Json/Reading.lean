import Mathlib.Data.List.Sort
import WarehouseSql.Json.Fields
import WarehouseSql.Record

/-!
Reading what was written.  A record is read by looking its members up (`Fields.required_eq`, `withDefault_eq`,
`nullable_eq`), so the order of its members does not matter: `Json.Arranges` describes the ways to arrange the members
of objects, **in the order in which they were written or in the order of their names** (`arranges_id`,
`arranges_normal`), and the lemmas below read a value however it is arranged.
-/

namespace WarehouseSql

/-! ### looking up -/

lemma lookup_eq_find? {α : Type} (name : String) (members : List (String × α)) :
    members.lookup name = (members.find? fun member => member.1 == name).map Prod.snd := by
  induction members with
  | nil => rfl
  | cons member members ih =>
    obtain ⟨key, value⟩ := member
    rw [List.lookup_cons, List.find?_cons, BEq.comm (a := key)]
    cases name == key with
    | true => rfl
    | false => exact ih

/-- Among distinct names, a name has the value of the member that it stands in. -/
lemma lookup_eq_some_iff {α : Type} {name : String} {value : α} {members : List (String × α)}
    (h : (members.map Prod.fst).Nodup) : members.lookup name = some value ↔ (name, value) ∈ members := by
  induction members with
  | nil => simp
  | cons member members ih =>
    obtain ⟨key, other⟩ := member
    obtain ⟨hkey, hmembers⟩ := List.nodup_cons.1 h
    rw [List.lookup_cons, List.mem_cons, Prod.mk.injEq]
    by_cases hname : name = key
    · subst hname
      have hnot : (name, value) ∉ members := fun hmem => hkey (List.mem_map.2 ⟨_, hmem, rfl⟩)
      simp [hnot, eq_comm]
    · have hdiffers : (name == key) = false := beq_eq_false_iff_ne.2 hname
      simp [hname, hdiffers, ih hmembers]

lemma lookup_eq_of_perm {α : Type} {members members' : List (String × α)} (hperm : members.Perm members')
    (h : (members'.map Prod.fst).Nodup) (name : String) : members.lookup name = members'.lookup name := by
  have h' : (members.map Prod.fst).Nodup := (hperm.map Prod.fst).nodup_iff.2 h
  refine Option.ext fun value => ?_
  rw [lookup_eq_some_iff h', lookup_eq_some_iff h, hperm.mem_iff]

lemma lookup_map {α β : Type} (f : α → β) (members : List (String × α)) (name : String) :
    (members.map fun member => (member.1, f member.2)).lookup name = (members.lookup name).map f := by
  induction members with
  | nil => rfl
  | cons member members ih =>
    obtain ⟨key, value⟩ := member
    rw [List.map_cons, List.lookup_cons, List.lookup_cons]
    cases name == key with
    | true => rfl
    | false => exact ih

namespace Fields

variable {bound : Nat} {α : Type} (fields : Fields bound) (name : String)

lemma map_get? : (fields.get? name).map Subtype.val = fields.members.lookup name := by
  rw [lookup_eq_find?]
  unfold get?
  split <;> next h => simp only [Option.map_some, Option.map_none, h]

lemma required_eq (read : Json → Option α) :
    fields.required name (fun j _ => read j) = (fields.members.lookup name).bind read := by
  rw [← map_get?, required]
  cases fields.get? name <;> rfl

lemma withDefault_eq (default : α) (read : Json → Option α) :
    fields.withDefault name default (fun j _ => read j) =
      (fields.members.lookup name).elim (some default) read := by
  rw [← map_get?, withDefault]
  cases fields.get? name <;> rfl

end Fields

namespace Json

/-- Null, or a value. -/
def orNull? {α : Type} (read : Json → Option α) : Json → Option (Option α)
  | .null => some none
  | j => (read j).map some

lemma orNull?_eq_some {α : Type} {read : Json → Option α} {j : Json} {a : α} (hread : read j = some a)
    (hnull : read .null ≠ some a) : orNull? read j = some (some a) := by
  have hne : j ≠ .null := fun heq => hnull (heq ▸ hread)
  rw [orNull?.eq_2 _ _ hne, hread, Option.map_some]

end Json

lemma Fields.nullable_eq {bound : Nat} {α : Type} (fields : Fields bound) (name : String) (read : Json → Option α) :
    fields.nullable name (fun j _ => read j) =
      (fields.members.lookup name).elim (some none) (Json.orNull? read) := by
  rw [← map_get?, nullable]
  rcases fields.get? name with - | ⟨j, hj⟩
  · rfl
  · cases j <;> rfl

namespace Fields

variable {bound : Nat} {α β : Type} {fields : Fields bound} {name : String} {j : Json} {read : Json → Option α}

lemma required_of_lookup {a : α} (hlookup : fields.members.lookup name = some j) (hread : read j = some a) :
    fields.required name (fun j _ => read j) = some a := by
  rw [required_eq, hlookup, Option.bind_some, hread]

lemma required_bind {a : α} (hlookup : fields.members.lookup name = some j) (hread : read j = some a)
    {next : α → Option β} : (fields.required name fun j _ => read j) >>= next = next a := by
  rw [required_of_lookup hlookup hread]
  rfl

lemma withDefault_of_lookup (default : α) {a : α} (hlookup : fields.members.lookup name = some j)
    (hread : read j = some a) :
    fields.withDefault name default (fun j _ => read j) = some a := by
  rw [withDefault_eq, hlookup, Option.elim_some, hread]

lemma withDefault_bind {default a : α} (hlookup : fields.members.lookup name = some j) (hread : read j = some a)
    {next : α → Option β} : (fields.withDefault name default fun j _ => read j) >>= next = next a := by
  rw [withDefault_of_lookup default hlookup hread]
  rfl

lemma nullable_bind {o : Option α} (hlookup : fields.members.lookup name = some j)
    (hread : Json.orNull? read j = some o) {next : Option α → Option β} :
    (fields.nullable name fun j _ => read j) >>= next = next o := by
  rw [nullable_eq, hlookup, Option.elim_some, hread]
  rfl

end Fields

namespace Json

lemma distinctNames_of_nodup {members : List (String × Json)} (h : (members.map Prod.fst).Nodup)
    (names : List String) : distinctNames names members = true := by
  refine List.all_eq_true.2 fun name _ => decide_eq_true ?_
  exact List.nodup_iff_count_le_one.1 h name

lemma asListWith?_eq_asList? {α : Type} (read : Json → Option α) (j : Json) :
    (j.asListWith? fun item _ => read item) = j.asList? read := rfl

lemma asList?_list {α : Type} (read : Json → Option α) (items : List Json) :
    (Json.list items).asList? read = items.mapM read := by
  rw [asList?, asListWith?, List.mapM_subtype fun item _ => rfl, List.unattach_attach]

/-! ### readable values -/

lemma areReadable_iff {items : List Json} : areReadable items = true ↔ ∀ item ∈ items, item.isReadable = true := by
  induction items with
  | nil => simp [areReadable]
  | cons item items ih => simp [areReadable, ih]

lemma areReadableMembers_iff {members : List (String × Json)} :
    areReadableMembers members = true ↔ ∀ member ∈ members, member.2.isReadable = true := by
  induction members with
  | nil => simp [areReadableMembers]
  | cons member members ih =>
    obtain ⟨name, value⟩ := member
    simp only [areReadableMembers, Bool.and_eq_true, ih, List.forall_mem_cons]

lemma isReadable_list {items : List Json} :
    (Json.list items).isReadable = true ↔ ∀ item ∈ items, item.isReadable = true := by
  rw [isReadable, areReadable_iff]

lemma isReadable_object {members : List (String × Json)} :
    (Json.object members).isReadable = true ↔ ∀ member ∈ members, member.2.isReadable = true := by
  rw [isReadable, areReadableMembers_iff]

@[simp] lemma isReadable_bool (flag : Bool) : (Json.bool flag).isReadable = true := rfl

@[simp] lemma isReadable_int (number : Int) : (Json.int number).isReadable = true := rfl

@[simp] lemma isReadable_text (content : String) : (Json.text content).isReadable = true := rfl

lemma isReadable_list_map {α : Type} {encode : α → Json} (as : List α) (h : ∀ a ∈ as, (encode a).isReadable = true) :
    (Json.list (as.map encode)).isReadable = true := by
  rw [isReadable_list]
  exact List.forall_mem_map.2 h

lemma isReadable_ofTexts (texts : List String) : (ofTexts texts).isReadable = true :=
  isReadable_list_map texts fun content _ => isReadable_text content

lemma isReadable_ofOption {α : Type} {encode : α → Json} {o : Option α}
    (h : ∀ a ∈ o, (encode a).isReadable = true) : (ofOption encode o).isReadable = true := by
  cases o with
  | none => rfl
  | some a => exact h a rfl

/-! ### arrangements -/

/-- An object of the given members, whose names are distinct, in any order and with their values arranged. -/
def HasMembers (arrange : Json → Json) (members : List (String × Json)) (j : Json) : Prop :=
  (members.map Prod.fst).Nodup ∧
    ∃ arranged, j = .object arranged ∧ arranged.Perm (members.map fun member => (member.1, arrange member.2))

/-- A way to arrange the members of objects whose names are distinct. -/
structure Arranges (arrange : Json → Json) : Prop where
  null : arrange .null = .null
  bool : ∀ flag, arrange (.bool flag) = .bool flag
  int : ∀ number, arrange (.int number) = .int number
  float : ∀ number, arrange (.float number) = .float number
  text : ∀ content, arrange (.text content) = .text content
  list : ∀ items, arrange (.list items) = .list (items.map arrange)
  object : ∀ members : List (String × Json), (members.map Prod.fst).Nodup →
    HasMembers arrange members (arrange (.object members))
  isReadable : ∀ j, j.isReadable = true → (arrange j).isReadable = true

lemma arranges_id : Arranges id where
  null := rfl
  bool _ := rfl
  int _ := rfl
  float _ := rfl
  text _ := rfl
  list items := by rw [List.map_id]; rfl
  object members h := ⟨h, members, rfl, by simp⟩
  isReadable _ h := h

lemma normalItems_eq_map (items : List Json) : normalItems items = items.map normal := by
  induction items with
  | nil => rfl
  | cons item items ih => rw [normalItems, ih, List.map_cons]

lemma normalMembers_eq_map (members : List (String × Json)) :
    normalMembers members = members.map fun member => (member.1, member.2.normal) := by
  induction members with
  | nil => rfl
  | cons member members ih =>
    obtain ⟨name, value⟩ := member
    rw [normalMembers, ih, List.map_cons]

end Json

/-- An entry of a new name is one more. -/
lemma perm_insertEntry {α : Type} {key : String} {value : α} {entries : List (String × α)}
    (h : key ∉ entries.map Prod.fst) : (insertEntry key value entries).Perm ((key, value) :: entries) := by
  induction entries with
  | nil => exact .refl _
  | cons entry entries ih =>
    obtain ⟨k, v⟩ := entry
    simp only [List.map_cons, List.mem_cons, not_or] at h
    rw [insertEntry, if_neg h.1]
    split_ifs
    · exact .refl _
    · exact ((ih h.2).cons (k, v)).trans (.swap _ _ _)

lemma perm_sortEntries {α : Type} {entries : List (String × α)} (h : (entries.map Prod.fst).Nodup) :
    (sortEntries entries).Perm entries := by
  suffices ∀ sorted : List (String × α), ((sorted ++ entries).map Prod.fst).Nodup →
      (entries.foldl (fun sorted entry => insertEntry entry.1 entry.2 sorted) sorted).Perm (sorted ++ entries) from
    this [] h
  clear h
  induction entries with
  | nil => intro sorted _; simp
  | cons entry entries ih =>
    intro sorted hsorted
    have hfirst : (sorted ++ entry :: entries).Perm (entry :: sorted ++ entries) := List.perm_middle
    have hcons : (((entry :: sorted) ++ entries).map Prod.fst).Nodup := ((hfirst.map Prod.fst).nodup_iff).1 hsorted
    have hnew : entry.1 ∉ sorted.map Prod.fst := by
      intro hmem
      rw [List.cons_append, List.map_cons, List.nodup_cons, List.map_append] at hcons
      exact hcons.1 (List.mem_append_left _ hmem)
    have hinsert : (insertEntry entry.1 entry.2 sorted ++ entries).Perm (entry :: sorted ++ entries) :=
      (perm_insertEntry hnew).append_right entries
    have hrest := ih (insertEntry entry.1 entry.2 sorted) (((hinsert.map Prod.fst).nodup_iff).2 hcons)
    exact hrest.trans (hinsert.trans hfirst.symm)

lemma InOrder.nodup {α : Type} {entries : List (String × α)} (h : InOrder entries) : (entries.map Prod.fst).Nodup :=
  List.pairwise_map.2 (h.imp String.ne_of_lt)

/-- Entries are put in their only order. -/
lemma sortEntries_eq_of_perm {α : Type} {entries sorted : List (String × α)} (hperm : entries.Perm sorted)
    (h : InOrder sorted) : sortEntries entries = sorted := by
  have hnodup : (entries.map Prod.fst).Nodup := (hperm.map Prod.fst).nodup_iff.2 h.nodup
  have hasymm : ∀ a ∈ sortEntries entries, ∀ b ∈ sorted, a.1 < b.1 → b.1 < a.1 → a = b :=
    fun a _ b _ hab hba => absurd hba (String.lt_asymm hab)
  exact ((perm_sortEntries hnodup).trans hperm).eq_of_pairwise (fun a b ha hb => hasymm a ha b hb)
    (inOrder_sortEntries entries) h

lemma sortEntries_of_inOrder {α : Type} {entries : List (String × α)} (h : InOrder entries) :
    sortEntries entries = entries := sortEntries_eq_of_perm (.refl _) h

lemma mem_sortEntries {α : Type} {entries : List (String × α)} {entry : String × α} (h : entry ∈ sortEntries entries) :
    entry ∈ entries := by
  suffices ∀ sorted : List (String × α),
      entry ∈ entries.foldl (fun sorted entry => insertEntry entry.1 entry.2 sorted) sorted →
        entry ∈ sorted ∨ entry ∈ entries by
    simpa using this [] h
  clear h
  induction entries with
  | nil => exact fun sorted h => .inl h
  | cons first entries ih =>
    intro sorted h
    rcases ih _ h with h | h
    · rcases mem_insertEntry h with h | h
      · exact .inr (List.mem_cons.2 (.inl h))
      · exact .inl h
    · exact .inr (List.mem_cons_of_mem _ h)

namespace Json

mutual
/-- Members may be dropped, but nothing becomes unreadable. -/
lemma isReadable_normal : ∀ j : Json, j.isReadable = true → j.normal.isReadable = true
  | .list items, h => by
    rw [isReadable_list] at h
    rw [normal, isReadable_list]
    exact isReadable_normalItems items h
  | .object members, h => by
    rw [isReadable_object] at h
    rw [normal, isReadable_object]
    exact fun member hmember => isReadable_normalMembers members h member (mem_sortEntries hmember)
  | .null, h => h
  | .bool _, h => h
  | .int _, h => h
  | .float _, h => h
  | .text _, h => h

lemma isReadable_normalItems : ∀ items : List Json, (∀ item ∈ items, item.isReadable = true) →
    ∀ item ∈ normalItems items, item.isReadable = true
  | [], _ => List.forall_mem_nil _
  | item :: items, h => by
    rw [List.forall_mem_cons] at h
    rw [normalItems, List.forall_mem_cons]
    exact ⟨isReadable_normal item h.1, isReadable_normalItems items h.2⟩

lemma isReadable_normalMembers : ∀ members : List (String × Json), (∀ member ∈ members, member.2.isReadable = true) →
    ∀ member ∈ normalMembers members, member.2.isReadable = true
  | [], _ => List.forall_mem_nil _
  | (name, value) :: members, h => by
    rw [List.forall_mem_cons] at h
    rw [normalMembers, List.forall_mem_cons]
    exact ⟨isReadable_normal value h.1, isReadable_normalMembers members h.2⟩
end

mutual
/-- What is in order stays as it is. -/
lemma normal_normal : ∀ j : Json, j.normal.normal = j.normal
  | .list items => by rw [normal, normal, normalItems_normalItems items]
  | .object members => by
    rw [normal, normal]
    have hmembers : normalMembers (sortEntries (normalMembers members)) = sortEntries (normalMembers members) := by
      rw [normalMembers_eq_map]
      refine (List.map_congr_left fun member hmember => ?_).trans (List.map_id _)
      exact Prod.ext rfl (normal_of_mem_normalMembers members member (mem_sortEntries hmember))
    rw [hmembers, sortEntries_of_inOrder (inOrder_sortEntries _)]
  | .null => rfl
  | .bool _ => rfl
  | .int _ => rfl
  | .float _ => rfl
  | .text _ => rfl
  | .unreadable => rfl

lemma normalItems_normalItems : ∀ items : List Json, normalItems (normalItems items) = normalItems items
  | [] => rfl
  | item :: items => by rw [normalItems, normalItems, normal_normal item, normalItems_normalItems items]

lemma normal_of_mem_normalMembers : ∀ (members : List (String × Json)), ∀ member ∈ normalMembers members,
    member.2.normal = member.2
  | [] => List.forall_mem_nil _
  | (_, value) :: members => by
    rw [normalMembers, List.forall_mem_cons]
    exact ⟨normal_normal value, normal_of_mem_normalMembers members⟩
end

lemma arranges_normal : Arranges normal where
  null := rfl
  bool _ := rfl
  int _ := rfl
  float _ := rfl
  text _ := rfl
  list items := by rw [normal, normalItems_eq_map]
  object members h := by
    rw [normal, normalMembers_eq_map]
    refine ⟨h, _, rfl, perm_sortEntries ?_⟩
    rwa [List.map_map, show (Prod.fst ∘ fun member : String × Json => (member.1, member.2.normal)) = Prod.fst from rfl]
  isReadable := isReadable_normal

/-! ### reading what is arranged -/

namespace HasMembers

variable {arrange : Json → Json} {members : List (String × Json)} {j : Json}

/-- The fields of a record are its members in some order. -/
lemma exists_perm_objectFields (hj : HasMembers arrange members j) (names : List String) :
    ∃ fields, j.objectFields? names = some fields ∧
      fields.members.Perm (members.map fun member => (member.1, arrange member.2)) ∧
      ((members.map fun member => (member.1, arrange member.2)).map Prod.fst).Nodup := by
  obtain ⟨hnodup, arranged, rfl, hperm⟩ := hj
  have hkeys : ((members.map fun member => (member.1, arrange member.2)).map Prod.fst).Nodup := by
    rw [List.map_map]
    exact hnodup
  have hdistinct : distinctNames names arranged = true :=
    distinctNames_of_nodup ((hperm.map Prod.fst).nodup_iff.2 hkeys) names
  rw [objectFields?, if_pos hdistinct]
  exact ⟨_, rfl, hperm, hkeys⟩

lemma exists_objectFields (hj : HasMembers arrange members j) (names : List String) :
    ∃ fields, j.objectFields? names = some fields ∧
      ∀ name, fields.members.lookup name = (members.lookup name).map arrange := by
  obtain ⟨fields, hfields, hperm, hkeys⟩ := hj.exists_perm_objectFields names
  refine ⟨fields, hfields, fun name => ?_⟩
  rw [lookup_eq_of_perm hperm hkeys name, lookup_map]

lemma exists_fields (hj : HasMembers arrange members j) (names : List String) :
    ∃ fields, j.fields? names = some fields ∧
      ∀ name, fields.members.lookup name = (members.lookup name).map arrange := by
  have hfields := hj.exists_objectFields names
  obtain ⟨-, arranged, rfl, -⟩ := hj
  exact hfields

/-- A tag is found wherever it stands, and the other members are the contents. -/
lemma exists_tagged {tag kind : String} (hj : HasMembers arrange ((tag, .text kind) :: members) j)
    (htext : arrange (.text kind) = .text kind) (hreadable : j.isReadable = true) :
    ∃ contents, j.tagged? tag = some (kind, contents) ∧ HasMembers arrange members contents := by
  obtain ⟨hnodup, arranged, rfl, hperm⟩ := hj
  obtain ⟨htag, hmembers⟩ := List.nodup_cons.1 hnodup
  rw [List.map_cons, htext] at hperm
  have hother : ∀ member ∈ members.map fun member => (member.1, arrange member.2), member.1 ≠ tag := by
    intro member hmember heq
    obtain ⟨written, hwritten, rfl⟩ := List.mem_map.1 hmember
    exact htag (List.mem_map.2 ⟨written, hwritten, heq⟩)
  generalize hothers : (members.map fun member => (member.1, arrange member.2)) = others at hperm hother
  -- names are distinct, so that the tag is told from the other members in any order
  have hnone : (others.filter fun member => member.1 == tag) = [] :=
    List.filter_eq_nil_iff.2 fun member hmember => by simpa using hother member hmember
  have hall : (others.filter fun member => member.1 != tag) = others :=
    List.filter_eq_self.2 fun member hmember => by simpa using hother member hmember
  have htags : (arranged.filter fun member => member.1 == tag) = [(tag, .text kind)] := by
    have hfilter := hperm.filter fun member => member.1 == tag
    rwa [List.filter_cons_of_pos (by simp), hnone, List.perm_singleton] at hfilter
  have hcontents : (arranged.filter fun member => member.1 != tag).Perm others := by
    have hfilter := hperm.filter fun member => member.1 != tag
    rwa [List.filter_cons_of_neg (by simp), hall] at hfilter
  rw [tagged?, if_pos hreadable]
  simp only [htags, List.map_cons, List.map_nil]
  exact ⟨_, rfl, hmembers, _, rfl, hothers ▸ hcontents⟩

end HasMembers

namespace Arranges

variable {arrange : Json → Json} (h : Arranges arrange)

include h

lemma asText?_text (content : String) : (arrange (.text content)).asText? = some content := by
  rw [h.text, asText?]

lemma asBool?_bool (flag : Bool) : (arrange (.bool flag)).asBool? = some flag := by
  rw [h.bool, asBool?]

lemma asUInt32?_ofUInt32 (n : UInt32) : (arrange (ofUInt32 n)).asUInt32? = some n := by
  have hbound : (0 : Int) ≤ (n.toNat : Int) ∧ (n.toNat : Int) < (UInt32.size : Nat) :=
    ⟨Int.natCast_nonneg _, Int.ofNat_lt.2 n.toNat_lt⟩
  rw [ofUInt32, h.int, asUInt32?, asNatBelow?, if_pos hbound, Int.toNat_natCast, Option.map_some, UInt32.ofNat_toNat]

lemma asUInt64?_ofUInt64 (n : UInt64) : (arrange (ofUInt64 n)).asUInt64? = some n := by
  have hbound : (0 : Int) ≤ (n.toNat : Int) ∧ (n.toNat : Int) < (UInt64.size : Nat) :=
    ⟨Int.natCast_nonneg _, Int.ofNat_lt.2 n.toNat_lt⟩
  rw [ofUInt64, h.int, asUInt64?, asNatBelow?, if_pos hbound, Int.toNat_natCast, Option.map_some, UInt64.ofNat_toNat]

lemma asList?_nil {α : Type} (read : Json → Option α) : (arrange (.list [])).asList? read = some [] := by
  rw [h.list, asList?_list]
  rfl

lemma asList?_cons {α : Type} {read : Json → Option α} {j : Json} {js : List Json} {a : α} {as : List α}
    (hfirst : read (arrange j) = some a) (hrest : (arrange (.list js)).asList? read = some as) :
    (arrange (.list (j :: js))).asList? read = some (a :: as) := by
  rw [h.list, asList?_list] at hrest ⊢
  simp [List.mapM_cons, hfirst, hrest]

lemma asList?_map_map {α β : Type} {read : Json → Option β} {encode : α → Json} {f : α → β} (as : List α)
    (hread : ∀ a ∈ as, read (arrange (encode a)) = some (f a)) :
    (arrange (.list (as.map encode))).asList? read = some (as.map f) := by
  induction as with
  | nil => exact h.asList?_nil read
  | cons a as ih =>
    obtain ⟨hfirst, hrest⟩ := List.forall_mem_cons.1 hread
    exact h.asList?_cons hfirst (ih hrest)

lemma asList?_map {α : Type} {read : Json → Option α} {encode : α → Json} (as : List α)
    (hread : ∀ a ∈ as, read (arrange (encode a)) = some a) :
    (arrange (.list (as.map encode))).asList? read = some as := by
  rw [h.asList?_map_map (f := id) as hread, List.map_id]

lemma asTexts?_ofTexts (texts : List String) : (arrange (ofTexts texts)).asTexts? = some texts :=
  h.asList?_map texts fun content _ => h.asText?_text content

lemma orNull?_ofOption {α : Type} {read : Json → Option α} {encode : α → Json} {o : Option α}
    (hread : ∀ a ∈ o, read (arrange (encode a)) = some a) (hnull : read .null = none) :
    orNull? read (arrange (ofOption encode o)) = some o := by
  cases o with
  | none => rw [ofOption, h.null, orNull?]
  | some a => exact orNull?_eq_some (hread a rfl) (by simp [hnull])

lemma orNull?_text (o : Option String) : orNull? asText? (arrange (ofOption .text o)) = some o :=
  h.orNull?_ofOption (fun content _ => h.asText?_text content) rfl

lemma orNull?_ofUInt32 (o : Option UInt32) : orNull? asUInt32? (arrange (ofOption ofUInt32 o)) = some o :=
  h.orNull?_ofOption (fun n _ => h.asUInt32?_ofUInt32 n) rfl

lemma orNull?_ofUInt64 (o : Option UInt64) : orNull? asUInt64? (arrange (ofOption ofUInt64 o)) = some o :=
  h.orNull?_ofOption (fun n _ => h.asUInt64?_ofUInt64 n) rfl

end Arranges

end Json

end WarehouseSql
