import WarehouseSql.Proofs.Connection.LookingUp

/-!
Finding columns.  A column is stored under the identifier that its definition writes (`Policy.stored_name`), and it is
found in a listing if the listing holds its name, the case of ASCII letters aside; several columns are found if each one is
(`Connection.on_hasColumns`).  Letter case is folded in all of Unicode when a column is stored and in ASCII only when it is
looked for, so **stored columns are found again exactly if their names are kept as they are or the characters beyond ASCII
are in upper case already** (`Connection.finds_stored_iff`).
-/

namespace WarehouseSql

open WarehouseSql.Action (on on_bind)

/-! ### two ways to fold letter case -/

namespace Text

lemma toLower_of_le {c : Char} (h : 128 ≤ c.toNat) : c.toLower = c := by
  refine dif_neg ?_
  rintro ⟨-, hletter⟩
  have hlast : c.toNat ≤ 90 := hletter
  omega

lemma toNat_toLower_lt {c : Char} (h : c.toNat < 128) : c.toLower.toNat < 128 :=
  forall_ascii (P := fun c => c.toLower.toNat < 128) (by decide) h

/-- Upper case does not matter where case is ignored, for characters of ASCII and those in upper case. -/
lemma map_toLower_upperChar {c : Char} (h : c.toNat < 128 ∨ upperChar c = [c]) :
    (upperChar c).map Char.toLower = [c.toLower] := by
  rcases h with hascii | hsame
  · rw [(upperChar_eq hascii).1]
    exact forall_ascii (P := fun c => [c.toUpper].map Char.toLower = [c.toLower]) (by decide) hascii
  · rw [hsame, List.map_singleton]

lemma asciiLower_upper {name : String} (h : ∀ c ∈ name.toList, c.toNat < 128 ∨ upperChar c = [c]) :
    asciiLower (upper name) = asciiLower name := by
  rw [asciiLower, asciiLower, upper, String.toList_ofList, List.map_flatMap, List.map_eq_flatMap,
    List.flatMap_congr fun c hc => map_toLower_upperChar (h c hc)]

/-- A character beyond ASCII that is not in upper case stands in no text in upper case, so that the case of ASCII letters
is not all that differs. -/
lemma asciiLower_upper_ne {name other : String} {c : Char} (hc : c ∈ name.toList) (hbeyond : 128 ≤ c.toNat)
    (hchanged : upperChar c ≠ [c]) : asciiLower (upper other) ≠ asciiLower name := by
  intro h
  have hlower : c ∈ (asciiLower name).toList := by
    rw [asciiLower, String.toList_ofList]
    exact List.mem_map.2 ⟨c, hc, toLower_of_le hbeyond⟩
  rw [← h, asciiLower, String.toList_ofList] at hlower
  obtain ⟨d, hd, hdc⟩ := List.mem_map.1 hlower
  have hsame : d = c := by
    rcases Nat.lt_or_ge d.toNat 128 with hascii | hd
    · have hlt := toNat_toLower_lt hascii
      rw [hdc] at hlt
      omega
    · rwa [toLower_of_le hd] at hdc
  obtain ⟨e, -, hmem⟩ := mem_upper.1 (hsame ▸ hd)
  exact hchanged (upperChar_of_mem hmem)

end Text

/-! ### stored columns -/

/-- A column is defined under an identifier that stores its name in the letter case of the policy. -/
lemma ColumnDefinition.stored_name {policy : Policy} {definition : ColumnDefinition} {sql : ColumnSql}
    (hquote : '"' ∉ definition.name.toList) (h : definition.compile policy = .ok sql) :
    Text.stored sql.name = policy.folded definition.name := by
  obtain ⟨type, -, hsql⟩ := Compiled.bind_eq_ok.1 h
  cases hsql
  exact Policy.stored_identifier hquote

namespace Connection

variable {c : Connection} {s t : Session} {table : String} {listing : List String}

lemma holdsColumn_iff {name : String} :
    holdsColumn listing name = true ↔ ∃ existing ∈ listing, Text.asciiLower existing = Text.asciiLower name := by
  rw [holdsColumn, List.any_eq_true]
  simp only [beq_iff_eq]

/-- A listing that holds a column as it is stored holds it where the case of ASCII letters is ignored, if its characters
beyond ASCII are not changed. -/
lemma holdsColumn_of_folded {policy : Policy} {name : String}
    (h : policy.caseSensitive = true ∨ ∀ c ∈ name.toList, c.toNat < 128 ∨ Text.upperChar c = [c])
    (hmem : policy.folded name ∈ listing) : holdsColumn listing name = true := by
  refine holdsColumn_iff.2 ⟨_, hmem, ?_⟩
  rw [Policy.folded]
  split_ifs with hcase
  · rfl
  · exact Text.asciiLower_upper (h.resolve_left hcase)

/-- **Columns are looked for in the listing of their table**: one by one, or all of them at once. -/
theorem on_hasColumns (h : on (c.columnListing table) s = (.ok listing, t)) :
    (∀ name, on (c.hasColumn table name) s = (.ok (holdsColumn listing name), t)) ∧
      ∀ names, on (c.hasColumns table names) s = (.ok (names.all (holdsColumn listing)), t) := by
  constructor
  · intro name
    rw [hasColumn, Action.on_bind_of_ok h]
    rfl
  · intro names
    rw [hasColumns, Action.on_bind_of_ok h]
    rfl

end Connection

/-! ### listings -/

/-- A raw connection that answers every text with the same rows. -/
def RawConnection.answering (rows : List Row) : RawConnection :=
  ⟨fun _ => .ok ⟨.ok true, ⟨"00000", none⟩, fun _ => .ok rows, rows.length⟩⟩

/-- A connection under a policy to which every table has the same columns. -/
def Connection.listing (policy : Policy) (columns : List String) : Connection :=
  { config := { tablePrefix := policy.tablePrefix, caseSensitive := policy.caseSensitive }
    raw := .answering (columns.map fun column => ⟨[("column_name", .text column)]⟩) }

namespace Connection

lemma exists_on_select {c : Connection} {rows : List Row} {sql : String} {bindings : Bindings} {s : Session}
    {resolution : Resolution} {text : Sent} (hraw : c.raw = .answering rows) (hs : s.pretending = false)
    (hresolution : c.resolution sql bindings = .ok resolution) (hsent : resolution.sent? = some text) :
    ∃ t, on (c.select sql bindings) s = (.ok rows, t) := by
  obtain ⟨statement, hbound, hstate⟩ := c.exists_bound sql bindings
  have hresolve : statement.resolve = .ok resolution := by
    rw [Connection.resolution, hbound] at hresolution
    exact hresolution
  have hexecution : (statement.execute c.raw s.sent none).result = .ok () ∧
      (statement.execute c.raw s.sent none).statement.fetchAll.1 = .ok rows := by
    rw [DeferredStatement.execute_eq hstate, DeferredStatement.inForce, hresolve, hraw]
    cases resolution with
    | skip sql => cases hsent
    | direct sql => exact ⟨rfl, rfl⟩
    | literal sql => exact ⟨rfl, rfl⟩
  rw [select, on_bind, on_run_of_live hbound (entry_of_resolution hresolution) hs]
  simp only [hexecution.1, Except.mapError, Except.map, Action.on_ofStatement, hexecution.2]
  exact ⟨_, rfl⟩

lemma listedColumns_map (columns : List String) :
    listedColumns (columns.map fun column => ⟨[("column_name", .text column)]⟩) = columns := by
  induction columns with
  | nil => rfl
  | cons column columns ih =>
    rw [listedColumns] at ih
    rw [List.map_cons, listedColumns, List.filterMap_cons, ih]
    rfl

lemma exists_on_columnListing (policy : Policy) (columns : List String) (table : String) :
    ∃ t, on ((Connection.listing policy columns).columnListing table) {} = (.ok columns, t) := by
  have hcode : TableLookup.LeavesCode (Connection.listing policy columns) := rfl
  have hmarkers : (Template.parse (Connection.listing policy columns).config.database).hasMarkers = false :=
    Template.hasMarkers_of_leads (.nil _)
  have hsends : ∃ text, TableLookup.columns.Sends (Connection.listing policy columns) table text :=
    TableLookup.exists_sends (fun _ => ⟨hcode, hmarkers⟩) nofun
  obtain ⟨text, resolution, hresolution, hsent⟩ := hsends
  obtain ⟨t, hselect⟩ := exists_on_select (s := {}) rfl rfl hresolution hsent
  refine ⟨t, ?_⟩
  rw [columnListing]
  refine (Action.on_bind_of_ok hselect).trans ?_
  rw [listedColumns_map]
  rfl

/-- **Stored columns are found again** exactly if letter case is kept or the characters beyond ASCII are in upper case. -/
theorem finds_stored_iff (policy : Policy) (names : List String) (hquote : ∀ name ∈ names, '"' ∉ name.toList) :
    (∀ definition : ColumnDefinition, definition.name ∈ names → ∀ sql, definition.compile policy = .ok sql →
      Text.stored sql.name = policy.folded definition.name) ∧
    (∀ (c : Connection) (s t : Session) (table : String) (listing : List String),
      on (c.columnListing table) s = (.ok listing, t) →
        ∃ found : String → Bool, (∀ name, on (c.hasColumn table name) s = (.ok (found name), t)) ∧
          ∀ names, on (c.hasColumns table names) s = (.ok (names.all found), t)) ∧
    ((∀ (c : Connection) (s t : Session) (table : String) (listing : List String), c.config.policy = policy →
        on (c.columnListing table) s = (.ok listing, t) → (∀ name ∈ names, policy.folded name ∈ listing) →
          (∀ name ∈ names, on (c.hasColumn table name) s = (.ok true, t)) ∧
            on (c.hasColumns table names) s = (.ok true, t)) ↔
      policy.caseSensitive = true ∨
        ∀ name ∈ names, ∀ c ∈ name.toList, c.toNat < 128 ∨ Text.upperChar c = [c]) := by
  refine ⟨fun definition hname sql hsql => definition.stored_name (hquote _ hname) hsql,
    fun c s t table listing h => ⟨_, on_hasColumns h⟩, ?_, ?_⟩
  · intro h
    by_contra hchanged
    obtain ⟨hcase, hnames⟩ := not_or.1 hchanged
    simp only [not_forall, not_or, Nat.not_lt] at hnames
    obtain ⟨name, hname, c, hc, hbeyond, hupper⟩ := hnames
    -- a table with the stored columns and no others
    obtain ⟨t, hlisting⟩ := exists_on_columnListing policy (names.map policy.folded) "t"
    have hfound := (h _ _ _ _ _ rfl hlisting fun name hname => List.mem_map_of_mem hname).1 name hname
    rw [(on_hasColumns hlisting).1 name] at hfound
    have hholds : holdsColumn (names.map policy.folded) name = true := Except.ok.inj (Prod.ext_iff.1 hfound).1
    obtain ⟨existing, hexisting, hsame⟩ := holdsColumn_iff.1 hholds
    obtain ⟨other, -, rfl⟩ := List.mem_map.1 hexisting
    rw [Policy.folded, if_neg hcase] at hsame
    exact Text.asciiLower_upper_ne hc hbeyond hupper hsame
  · intro h c s t table listing _ hlisting hstored
    have hholds : ∀ name ∈ names, holdsColumn listing name = true := fun name hname =>
      holdsColumn_of_folded (h.imp_right fun h => h name hname) (hstored name hname)
    obtain ⟨hcolumn, hcolumns⟩ := on_hasColumns hlisting
    refine ⟨fun name hname => ?_, ?_⟩
    · rw [hcolumn, hholds name hname]
    · rw [hcolumns, List.all_eq_true.2 hholds]

theorem finds_stored_capital :
    (∀ name ∈ ["id", "straẞe"], '"' ∉ name.toList) ∧
      ∃ t, on ((Connection.listing {} ["ID", "STRAẞE"]).columnListing "t") {} = (.ok ["ID", "STRAẞE"], t) ∧
        on ((Connection.listing {} ["ID", "STRAẞE"]).hasColumns "t" ["id", "straẞe"]) {} = (.ok true, t) := by
  have hquote : ∀ name ∈ ["id", "straẞe"], '"' ∉ name.toList := by decide
  obtain ⟨t, hlisting⟩ := exists_on_columnListing {} ["ID", "STRAẞE"] "t"
  have hupper : (["id", "straẞe"].all fun name =>
      name.toList.all fun c => decide (c.toNat < 128) || Text.upperChar c == [c]) = true := by decide +kernel
  have hkept := (finds_stored_iff {} ["id", "straẞe"] hquote).2.2.2 <| .inr fun name hname c hc => by
    simpa using List.all_eq_true.1 (List.all_eq_true.1 hupper name hname) c hc
  exact ⟨hquote, t, hlisting, (hkept _ _ _ _ _ rfl hlisting (by decide +kernel)).2⟩

/-- A column that has been stored is not found again: letter case is folded in all of Unicode when it is stored. -/
theorem exists_stored_not_found :
    ¬ ∀ (policy : Policy) (names : List String), (∀ name ∈ names, '"' ∉ name.toList) →
      ∀ (c : Connection) (s t : Session) (table : String) (listing : List String), c.config.policy = policy →
        on (c.columnListing table) s = (.ok listing, t) → (∀ name ∈ names, policy.folded name ∈ listing) →
          ∀ name ∈ names, on (c.hasColumn table name) s = (.ok true, t) := by
  intro h
  obtain ⟨t, hlisting⟩ := exists_on_columnListing {} ["É"] "t"
  have hfound := h {} ["é"] (by decide) _ _ _ _ _ rfl hlisting (by decide +kernel) "é" (by decide)
  rw [(on_hasColumns hlisting).1 "é"] at hfound
  exact absurd (Except.ok.inj (Prod.ext_iff.1 hfound).1) (by decide +kernel)

end Connection

end WarehouseSql
