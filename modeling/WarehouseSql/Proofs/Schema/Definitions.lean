import WarehouseSql.Proofs.Schema.ColumnChanges

/-!
How columns are defined.  The modifiers of a column have their places in the definition (`Place.order`), and **what a
column says stands in this order, each kind once at most** (`ColumnDefinition.keepsOrder_said`).  A column may also
follow the current time by default, and this comes with its type, before all modifiers.  So **a definition has one
default at most exactly unless such a column says a default as well, and it is in order exactly unless such a column
says something up to the default** (`ColumnDefinition.definition_keepsOrder_iff`).  A change of a column is always in
order (`ColumnDefinition.keepsOrder_changeModifiers`).
-/

namespace WarehouseSql

/-! ### places -/

/-- The kinds of modifiers by their places. -/
inductive Place where
  | charset
  | collation
  | virtualAs
  | storedAs
  | nullability
  | srid
  | default
  | increment
  | comment
  | after
  | first
deriving DecidableEq

/-- The order of the modifiers in a definition. -/
def Place.order : List Place :=
  [.charset, .collation, .virtualAs, .storedAs, .nullability, .srid, .default, .increment, .comment, .after, .first]

namespace Modifier

/-- Whether a modifier is a default: it begins with this word. -/
def isDefault (m : Modifier) : Bool := "default ".toList.isPrefixOf m.sql.toList

/-- The place of a modifier.  What makes a column follow the current time has the place of a default if it is one, and
otherwise none. -/
def place? : Modifier → Option Place
  | .current sql => if isDefault (.current sql) then some .default else none
  | .charset _ => some .charset
  | .collation _ => some .collation
  | .virtualAs _ => some .virtualAs
  | .storedAs _ => some .storedAs
  | .nullability _ => some .nullability
  | .srid _ => some .srid
  | .default _ => some .default
  | .increment => some .increment
  | .comment _ => some .comment
  | .after _ => some .after
  | .first => some .first

/-- The modifiers at the place of defaults are those that begin with the word. -/
lemma isDefault_iff (m : Modifier) : m.isDefault = true ↔ m.place? = some .default := by
  cases m with
  | current sql => simp [place?]
  | nullability nullable => cases nullable <;> simp [place?, isDefault, sql]
  | _ => simp [place?, isDefault, sql, String.toList_append]

end Modifier

lemma countP_isDefault (modifiers : List Modifier) :
    modifiers.countP Modifier.isDefault = (modifiers.filterMap Modifier.place?).count .default := by
  rw [List.count, List.countP_filterMap]
  refine List.countP_congr fun modifier _ => ?_
  rw [Modifier.isDefault_iff]
  cases modifier.place? <;> simp

namespace ColumnDefinition

variable (c : ColumnDefinition) (policy : Policy)

/-! ### what a column says -/

/-- The modifiers before the default for what a column says. -/
def earlyModifiers : List Modifier :=
  (c.charset.map .charset).toList
    ++ (c.collation.map .collation).toList
    ++ (c.virtualAs.map .virtualAs).toList
    ++ (c.storedAs.map .storedAs).toList
    ++ c.nullability
    ++ ((positive c.srid).map .srid).toList

/-- The modifier for the default that a column says. -/
def defaultModifier : List Modifier := ((c.default.bind (defaultSql? c.type)).map .default).toList

/-- The modifiers after the default for what a column says. -/
def lateModifiers : List Modifier :=
  (if isSerial c.type && c.autoIncrement then [.increment] else [])
    ++ (c.comment.map .comment).toList
    ++ (c.after.map fun column => .after (policy.columnName column)).toList
    ++ (if c.first then [.first] else [])

lemma modifiers_eq :
    c.modifiers policy =
      c.currentModifiers ++ (c.earlyModifiers ++ (c.defaultModifier ++ c.lateModifiers policy)) := by
  simp only [modifiers, earlyModifiers, defaultModifier, lateModifiers, List.append_assoc]

/-- Whether a column follows the current time by default: it is a date with a time and told so. -/
def FollowsCurrent : Prop :=
  c.useCurrent = true ∧ c.type ∈ [ColumnType.dateTime, .dateTimeTz, .timestamp, .timestampTz]

/-- Whether a column says a default; null is none. -/
def SaysDefault : Prop := c.default.bind (defaultSql? c.type) ≠ none

/-- Whether the definition of a column says something at a place before the default. -/
def SaysEarly : Prop :=
  c.charset ≠ none ∨ c.collation ≠ none ∨ c.virtualAs ≠ none ∨ c.storedAs ≠ none ∨ c.RefusesNull ∨
    positive c.srid ≠ none

instance : Decidable c.SaysEarly := by unfold SaysEarly; infer_instance

/-! ### places of modifiers -/

lemma sublist_optional {α : Type} {modifier : α → Modifier} {place : Place}
    (h : ∀ a, (modifier a).place? = some place) (said : Option α) :
    ((said.map modifier).toList.filterMap Modifier.place?).Sublist [place] := by
  cases said with
  | none => exact List.nil_sublist _
  | some a =>
    rw [Option.map_some, Option.toList_some, List.filterMap_cons_some (h a)]
    exact .refl _

lemma sublist_flag {modifier : Modifier} {place : Place} (h : modifier.place? = some place) (flag : Bool) :
    ((if flag then [modifier] else []).filterMap Modifier.place?).Sublist [place] := by
  cases flag with
  | false => exact List.nil_sublist _
  | true =>
    rw [if_pos rfl, List.filterMap_cons_some h]
    exact .refl _

lemma sublist_nullability : (c.nullability.filterMap Modifier.place?).Sublist [.nullability] := by
  unfold nullability
  split
  · exact .refl _
  · exact .refl _
  · exact .refl _
  · exact List.nil_sublist _

/-- What a column says before its default has its places in order. -/
lemma sublist_earlyModifiers : (c.earlyModifiers.filterMap Modifier.place?).Sublist (Place.order.take 6) := by
  simp only [earlyModifiers, List.filterMap_append]
  exact (((((sublist_optional (fun _ => rfl) _).append (sublist_optional (fun _ => rfl) _)).append
    (sublist_optional (fun _ => rfl) _)).append (sublist_optional (fun _ => rfl) _)).append
    c.sublist_nullability).append (sublist_optional (fun _ => rfl) _)

lemma places_defaultModifier :
    (c.SaysDefault ∧ c.defaultModifier.filterMap Modifier.place? = [.default]) ∨
      (¬ c.SaysDefault ∧ c.defaultModifier.filterMap Modifier.place? = []) := by
  unfold SaysDefault defaultModifier
  cases c.default.bind (defaultSql? c.type) with
  | none => exact .inr ⟨not_not_intro rfl, rfl⟩
  | some sql => exact .inl ⟨Option.some_ne_none sql, rfl⟩

lemma sublist_lateModifiers : ((c.lateModifiers policy).filterMap Modifier.place?).Sublist (Place.order.drop 7) := by
  simp only [lateModifiers, List.filterMap_append]
  exact (((sublist_flag rfl _).append (sublist_optional (fun _ => rfl) _)).append
    (sublist_optional (fun _ => rfl) _)).append (sublist_flag rfl _)

lemma isDefault_current (time rest : String) : Modifier.isDefault (.current ("default " ++ time ++ rest)) = true := by
  rw [Modifier.isDefault, Modifier.sql, String.toList_append, String.toList_append, List.append_assoc,
    List.isPrefixOf_iff_prefix]
  exact List.prefix_append _ _

/-- What makes a column follow the current time is a default exactly if the column follows it by default. -/
lemma places_currentModifiers :
    (c.FollowsCurrent ∧ c.currentModifiers.filterMap Modifier.place? = [.default]) ∨
      (¬ c.FollowsCurrent ∧ c.currentModifiers.filterMap Modifier.place? = []) := by
  have hupdated : ∀ time, Modifier.place? (.current ("on update " ++ time)) = none := by
    intro time
    simp [Modifier.place?, Modifier.isDefault, Modifier.sql, String.toList_append]
  have hcurrent : ∀ time rest, Modifier.place? (.current ("default " ++ time ++ rest)) = some .default := by
    intro time rest
    rw [Modifier.place?, if_pos (isDefault_current time rest)]
  have hstamps : ∀ time : String, List.filterMap Modifier.place? (
      let parts := ["default " ++ time] ++ (if c.useCurrentOnUpdate then ["on update " ++ time] else [])
      if parts.isEmpty then [] else [.current (String.intercalate " " parts)]) = [.default] := by
    intro time
    refine List.filterMap_cons_some ?_
    rw [List.singleton_append, Text.intercalate_cons]
    exact hcurrent time _
  unfold currentModifiers FollowsCurrent
  cases c.useCurrent with
  | false =>
    refine .inr ⟨fun h => Bool.false_ne_true h.1, ?_⟩
    cases c.useCurrentOnUpdate <;> split <;> first | rfl | exact List.filterMap_cons_none (hupdated _)
  | true =>
    split
    case h_1 htype => exact .inl ⟨⟨rfl, by simp [htype]⟩, List.filterMap_cons_some (hcurrent "CURRENT_TIMESTAMP" "")⟩
    case h_2 htype => exact .inl ⟨⟨rfl, by simp [htype]⟩, List.filterMap_cons_some (hcurrent "CURRENT_TIMESTAMP" "")⟩
    case h_3 htype => exact .inl ⟨⟨rfl, by simp [htype]⟩, hstamps _⟩
    case h_4 htype => exact .inl ⟨⟨rfl, by simp [htype]⟩, hstamps _⟩
    case h_5 => exact .inr ⟨by simp_all, rfl⟩

lemma written_optional_eq_nil_iff {α : Type} {modifier : α → Modifier} {place : Place}
    (h : ∀ a, (modifier a).place? = some place) (hplace : place ≠ .nullability) (said : Option α) :
    ((said.map modifier).toList.filter (· != .nullability true)).filterMap Modifier.place? = [] ↔ said = none := by
  cases said with
  | none => exact iff_of_true rfl rfl
  | some a =>
    have hwritten : modifier a ≠ .nullability true := by
      intro heq
      have hnull := h a
      rw [heq] at hnull
      exact hplace (Option.some.inj hnull).symm
    simp [hwritten, h a]

/-- Of the early modifiers, only null is left out of the definition. -/
lemma places_early_eq_nil_iff :
    (c.earlyModifiers.filter (· != .nullability true)).filterMap Modifier.place? = [] ↔ ¬ c.SaysEarly := by
  have hnullability :
      (c.nullability.filter (· != .nullability true)).filterMap Modifier.place? = [] ↔ ¬ c.RefusesNull := by
    cases hgenerated : c.isGenerated <;> rcases hnullable : c.nullable with _ | _ | _ <;>
      simp [nullability, RefusesNull, hgenerated, hnullable, Modifier.place?]
  simp only [earlyModifiers, List.filter_append, List.filterMap_append, List.append_eq_nil_iff, hnullability]
  rw [written_optional_eq_nil_iff (fun _ => rfl) (by decide), written_optional_eq_nil_iff (fun _ => rfl) (by decide),
    written_optional_eq_nil_iff (fun _ => rfl) (by decide), written_optional_eq_nil_iff (fun _ => rfl) (by decide),
    written_optional_eq_nil_iff (fun _ => rfl) (by decide)]
  simp only [SaysEarly, not_or, not_not]
  tauto

/-! ### definitions -/

/-- Modifiers are in order if their places are, each taken once at most. -/
def KeepsOrder (modifiers : List Modifier) : Prop := (modifiers.filterMap Modifier.place?).Sublist Place.order

instance (modifiers : List Modifier) : Decidable (KeepsOrder modifiers) := by unfold KeepsOrder; infer_instance

lemma KeepsOrder.filter {modifiers : List Modifier} (h : KeepsOrder modifiers) (keep : Modifier → Bool) :
    KeepsOrder (modifiers.filter keep) :=
  (List.filter_sublist.filterMap _).trans h

/-- Of modifiers in order at most one is a default. -/
lemma KeepsOrder.countP_isDefault_le {modifiers : List Modifier} (h : KeepsOrder modifiers) :
    modifiers.countP Modifier.isDefault ≤ 1 := by
  rw [countP_isDefault]
  exact h.count_le .default

/-- A default may only stand before modifiers that come after the default. -/
lemma keepsOrder_default_append_iff {early given late : List Place} (hearly : early.Sublist (Place.order.take 6))
    (hgiven : given.Sublist [.default]) (hlate : late.Sublist (Place.order.drop 7)) :
    (Place.default :: (early ++ (given ++ late))).Sublist Place.order ↔ early = [] ∧ given = [] := by
  constructor
  · intro h
    -- all that stands after the default in a sublist of the order has a greater rank
    have hranks : Place.order.Pairwise fun p q => Place.order.idxOf p < Place.order.idxOf q := by decide
    have hbefore : ∀ place ∈ Place.order.take 7, Place.order.idxOf place ≤ Place.order.idxOf .default := by decide
    have hafter := (List.pairwise_cons.1 (hranks.sublist h)).1
    have hboth : early ++ given = [] := by
      refine List.eq_nil_iff_forall_not_mem.2 fun place hplace => ?_
      have hplaces := (hearly.append hgiven).subset hplace
      rw [← List.append_assoc] at hafter
      exact absurd (hafter place (List.mem_append_left _ hplace)) (not_lt.2 (hbefore place hplaces))
    exact List.append_eq_nil_iff.1 hboth
  · rintro ⟨rfl, rfl⟩
    exact (List.cons_sublist_cons.2 hlate).trans (List.drop_sublist 6 Place.order)

variable (c : ColumnDefinition) (policy : Policy)

/-- What a column says, in its definition: null is left out. -/
def writtenModifiers : List Modifier :=
  (c.earlyModifiers ++ (c.defaultModifier ++ c.lateModifiers policy)).filter (· != .nullability true)

/-- What a column says has its places in order. -/
lemma keepsOrder_said : KeepsOrder (c.earlyModifiers ++ (c.defaultModifier ++ c.lateModifiers policy)) := by
  rw [KeepsOrder, List.filterMap_append, List.filterMap_append]
  exact c.sublist_earlyModifiers.append ((sublist_optional (fun _ => rfl) _).append (c.sublist_lateModifiers policy))

lemma places_writtenModifiers : ∃ early late : List Place,
    (c.writtenModifiers policy).filterMap Modifier.place? =
      early ++ (c.defaultModifier.filterMap Modifier.place? ++ late) ∧
    early.Sublist (Place.order.take 6) ∧ late.Sublist (Place.order.drop 7) ∧ (early = [] ↔ ¬ c.SaysEarly) := by
  have hdefault : c.defaultModifier.filter (· != .nullability true) = c.defaultModifier :=
    filter_optional (fun _ => rfl) _
  refine ⟨(c.earlyModifiers.filter (· != .nullability true)).filterMap Modifier.place?,
    ((c.lateModifiers policy).filter (· != .nullability true)).filterMap Modifier.place?, ?_,
    (List.filter_sublist.filterMap _).trans c.sublist_earlyModifiers,
    (List.filter_sublist.filterMap _).trans (c.sublist_lateModifiers policy), c.places_early_eq_nil_iff⟩
  rw [writtenModifiers, List.filter_append, List.filter_append, hdefault, List.filterMap_append, List.filterMap_append]

/-- **A column has one default at most exactly unless it follows the current time and says a default as well; and its
modifiers are in order exactly unless it follows the current time and says something up to the default.**  What it says
is always in order. -/
theorem definition_keepsOrder_iff {compiled : ColumnSql} (h : c.compile policy = .ok compiled) :
    ∃ type, c.sqlType = .ok type ∧
      compiled.definition = policy.identifier c.name ++ " " ++ type
        ++ String.join ((c.currentModifiers ++ c.writtenModifiers policy).map (" " ++ ·.sql)) ∧
      KeepsOrder (c.writtenModifiers policy) ∧
      ((c.currentModifiers ++ c.writtenModifiers policy).countP Modifier.isDefault ≤ 1 ↔
        ¬ (c.FollowsCurrent ∧ c.SaysDefault)) ∧
      (KeepsOrder (c.currentModifiers ++ c.writtenModifiers policy) ↔
        ¬ (c.FollowsCurrent ∧ (c.SaysEarly ∨ c.SaysDefault))) := by
  obtain ⟨type, htype, rfl⟩ := (c.compile_eq_ok_iff policy).1 h
  obtain ⟨early, late, hplaces, hearly, hlate, hnothing⟩ := c.places_writtenModifiers policy
  have hcurrent : c.currentModifiers.filter (· != .nullability true) = c.currentModifiers := by
    refine List.filter_eq_self.2 fun modifier hmodifier => ?_
    obtain ⟨sql, rfl, -⟩ := c.exists_of_mem_currentModifiers hmodifier
    rfl
  have hgiven : (c.defaultModifier.filterMap Modifier.place?).Sublist [.default] :=
    sublist_optional (fun _ => rfl) _
  have hsaid : KeepsOrder (c.writtenModifiers policy) := (c.keepsOrder_said policy).filter _
  -- neither early nor late modifiers stand at the place of a default
  have hcount : early.count .default = 0 ∧ late.count .default = 0 := by
    constructor
    · exact List.count_eq_zero.2 fun h => absurd (hearly.subset h) (by decide)
    · exact List.count_eq_zero.2 fun h => absurd (hlate.subset h) (by decide)
  refine ⟨type, htype, ?_, hsaid, ?_, ?_⟩
  · rw [ColumnSql.definition, ColumnSql.write_eq, modifiers_eq, List.filter_append, hcurrent]
    rfl
  · rw [countP_isDefault, List.filterMap_append, hplaces, List.count_append, List.count_append, List.count_append,
      hcount.1, hcount.2]
    rcases c.places_currentModifiers with ⟨hfollows, hplace⟩ | ⟨hfollows, hplace⟩ <;>
      rcases c.places_defaultModifier with ⟨hdefault, hplace'⟩ | ⟨hdefault, hplace'⟩ <;>
      simp [hplace, hplace', hfollows, hdefault]
  · -- what follows the current time comes first, so that nothing may precede a default
    rw [KeepsOrder, List.filterMap_append]
    rcases c.places_currentModifiers with ⟨hfollows, hplace⟩ | ⟨hfollows, hplace⟩
    · rw [hplace, hplaces, List.singleton_append, keepsOrder_default_append_iff hearly hgiven hlate, hnothing]
      rcases c.places_defaultModifier with ⟨hdefault, hplace'⟩ | ⟨hdefault, hplace'⟩ <;>
        simp [hplace', hfollows, hdefault]
    · rw [hplace, List.nil_append]
      exact iff_of_true hsaid fun h => hfollows h.1

/-- A time of which nothing else is said. -/
def stamp : ColumnDefinition := { name := "at", type := .timestamp, nullable := some true, useCurrent := true }

theorem definition_keepsOrder_iff_stamp :
    let c := { stamp with comment := some "now" }
    ∃ compiled, c.compile {} = .ok compiled ∧
      compiled.definition = "AT timestamp default CURRENT_TIMESTAMP comment 'now'" ∧
      KeepsOrder (c.currentModifiers ++ c.writtenModifiers {}) := by
  intro c
  obtain ⟨type, -, -, -, -, horder⟩ := c.definition_keepsOrder_iff {} rfl
  refine ⟨_, rfl, by decide +kernel, horder.2 ?_⟩
  rintro ⟨-, hearly | hdefault⟩
  · exact absurd hearly (by decide +kernel)
  · exact hdefault rfl

/-- A column that follows the current time and says a default has two of them, with what is said about null between. -/
theorem exists_two_defaults :
    let c := { stamp with nullable := none, default := some (.value (.text "x")) }
    let modifiers := c.currentModifiers ++ c.writtenModifiers {}
    (c.compile {}).map ColumnSql.definition = .ok "AT timestamp default CURRENT_TIMESTAMP not null default 'x'" ∧
      modifiers.countP Modifier.isDefault = 2 ∧ ¬ KeepsOrder modifiers := by
  decide +kernel

/-- What a change of a column keeps is always in order, with one default at most: what makes the column follow the
current time is left out. -/
theorem keepsOrder_changeModifiers :
    KeepsOrder (c.changeModifiers policy) ∧ (c.changeModifiers policy).countP Modifier.isDefault ≤ 1 := by
  have horder : KeepsOrder (c.changeModifiers policy) := by
    rw [← filter_modifiers, modifiers_eq, List.filter_append, filter_currentModifiers, List.nil_append]
    exact (c.keepsOrder_said policy).filter _
  exact ⟨horder, horder.countP_isDefault_le⟩

end ColumnDefinition

end WarehouseSql
