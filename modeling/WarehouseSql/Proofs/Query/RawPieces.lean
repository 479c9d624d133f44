import WarehouseSql.Proofs.Fragment.SelfContained
import WarehouseSql.Proofs.Name.Stored
import WarehouseSql.Proofs.Query.Nesting
import WarehouseSql.Proofs.Query.Restrictions

/-!
Queries with raw conditions in them, under a case-sensitive policy.  `Query.RawsAre` says which raw conditions a query has:
which ones anywhere, and which ones at the end of its joins, of its conditions or of its conditions on groups.  Each of
these parts is trimmed when the statement is put together, so **a query of self-contained conditions keeps its
placeholders if those at the ends of its parts stay closed when they are trimmed** (`Dialect.selfContained_select`), and
there is no weaker test for them (`Dialect.keepsPlaceholders_iff`).
-/

namespace WarehouseSql

open Fragment
open Compiled (Lifts Yields)

/-! ### raw conditions -/

def anyName : String → Bool := fun _ => true

/-- The raw text that a condition is. -/
def Condition.raw? : Condition → Option Fragment
  | .raw sql bindings => some ⟨sql, bindings⟩
  | _ => none

def GroupCondition.raw? : GroupCondition → Option Fragment
  | .raw sql bindings => some ⟨sql, bindings⟩
  | _ => none

def clausesEnd? (clauses : List Clause) : Option Fragment := endRaw? (clauses.map (·.condition.raw?))

def joinsEnd? (joins : List Join) : Option Fragment := endRaw? (joins.map fun join => clausesEnd? join.clauses)

def havingsEnd? (havings : List Having) : Option Fragment := endRaw? (havings.map (·.condition.raw?))

/-- A condition on groups is raw text that passes a test, or has no raw SQL in it. -/
def GroupCondition.RawsAre (inside : Fragment → Prop) : GroupCondition → Prop
  | .raw sql bindings => inside ⟨sql, bindings⟩
  | condition => condition.isRawFree anyName = true

/-- A query without its conditions and without the queries in it. -/
def Query.frame (q : Query) : Query := { q with joins := [], clauses := [], havings := [], branches := [] }

mutual
/-- The only raw SQL of a query are conditions that pass the test `inside`, and those at the ends of its parts pass the test
`atEnd` as well. -/
def Query.RawsAre (inside atEnd : Fragment → Prop) : Query → Prop
  | q@{ joins, clauses, branches, .. } =>
    q.frame.isRawFree anyName = true ∧
      (joinsRawsAre inside atEnd joins ∧ ∀ f ∈ joinsEnd? joins, atEnd f) ∧
      (clausesRawsAre inside atEnd clauses ∧ ∀ f ∈ clausesEnd? clauses, atEnd f) ∧
      ((∀ h ∈ q.havings, h.condition.RawsAre inside) ∧ ∀ f ∈ havingsEnd? q.havings, atEnd f) ∧
      branchesRawsAre inside atEnd branches

def joinsRawsAre (inside atEnd : Fragment → Prop) : List Join → Prop
  | [] => True
  | ⟨_, table, clauses⟩ :: joins =>
    table.isName anyName = true ∧ clausesRawsAre inside atEnd clauses ∧ joinsRawsAre inside atEnd joins

def clausesRawsAre (inside atEnd : Fragment → Prop) : List Clause → Prop
  | [] => True
  | ⟨_, condition⟩ :: clauses => condition.RawsAre inside atEnd ∧ clausesRawsAre inside atEnd clauses

def Condition.RawsAre (inside atEnd : Fragment → Prop) : Condition → Prop
  | .group clauses => clausesRawsAre inside atEnd clauses
  | .raw sql bindings => inside ⟨sql, bindings⟩
  | .existsRow query _ => query.RawsAre inside atEnd
  | .amongRows column query _ => column.isName anyName = true ∧ query.RawsAre inside atEnd
  | condition => condition.isRawFree anyName = true

def branchesRawsAre (inside atEnd : Fragment → Prop) : List Branch → Prop
  | [] => True
  | ⟨query, _⟩ :: branches => query.RawsAre inside atEnd ∧ branchesRawsAre inside atEnd branches
end

/-- What is said of the raw conditions of a query, part by part. -/
structure Query.RawParts (inside atEnd : Fragment → Prop) (q : Query) : Prop where
  frame : q.frame.isRawFree anyName = true
  joins : joinsRawsAre inside atEnd q.joins
  joinsEnd : ∀ f ∈ joinsEnd? q.joins, atEnd f
  clauses : clausesRawsAre inside atEnd q.clauses
  clausesEnd : ∀ f ∈ clausesEnd? q.clauses, atEnd f
  havings : ∀ h ∈ q.havings, h.condition.RawsAre inside
  havingsEnd : ∀ f ∈ havingsEnd? q.havings, atEnd f
  branches : branchesRawsAre inside atEnd q.branches

lemma Query.rawsAre_iff {inside atEnd : Fragment → Prop} {q : Query} :
    q.RawsAre inside atEnd ↔ q.RawParts inside atEnd := by
  cases q
  simp only [Query.RawsAre]
  constructor
  · rintro ⟨h1, ⟨h2, h3⟩, ⟨h4, h5⟩, ⟨h6, h7⟩, h8⟩
    exact ⟨h1, h2, h3, h4, h5, h6, h7, h8⟩
  · rintro ⟨h1, h2, h3, h4, h5, h6, h7, h8⟩
    exact ⟨h1, ⟨h2, h3⟩, ⟨h4, h5⟩, ⟨h6, h7⟩, h8⟩

namespace Compiled.Yields

variable {α β ι : Type} {P : α → Prop} {x : Compiled α}

/-- What is known of a result in relation to another one is known of the result. -/
lemma of_lifts {R : α → β → Prop} {y : Compiled β} (h : Lifts R x y) (hR : ∀ a b, R a b → P a) : Yields P x := by
  intro a ha
  obtain ⟨b, -, hab⟩ := h a ha
  exact hR a b hab

lemma forall₂ {R : ι → α → Prop} {f : ι → Compiled α} {items : List ι} (h : ∀ i ∈ items, Yields (R i) (f i)) :
    Yields (List.Forall₂ R items) (items.mapM f) := by
  induction items with
  | nil => exact ok .nil
  | cons i items ih =>
    obtain ⟨hi, hrest⟩ := List.forall_mem_cons.1 h
    rw [List.mapM_cons]
    exact hi.bind fun a ha => (ih hrest).bind fun as has => ok (.cons ha has)

end Compiled.Yields

lemma Policy.admits_eq_anyName {policy : Policy} (hcase : policy.caseSensitive = true) : policy.admits = anyName :=
  funext (Policy.admits_of_caseSensitive hcase)

namespace Dialect

variable {d : Dialect} {atEnd : Fragment → Prop}

/-! ### chains of conditions -/

def connectiveGap (connective : Connective) : String := " " ++ connective.keyword ++ " "

lemma chain_eq_gapped (cs : List (Connective × Fragment)) :
    chain cs = gapped (cs.map fun c => (connectiveGap c.1, c.2)) := by
  have hfold : ∀ (rest : List (Connective × Fragment)) (f g : Fragment),
      rest.foldl (fun sofar next => sofar ++ text (connectiveGap next.1) ++ next.2) (f ++ g) =
        f ++ rest.foldl (fun sofar next => sofar ++ text (connectiveGap next.1) ++ next.2) g := by
    intro rest
    induction rest with
    | nil => exact fun _ _ => rfl
    | cons next rest ih =>
      intro f g
      rw [List.foldl_cons, List.foldl_cons, append_assoc f g, append_assoc f (g ++ _), ih]
  cases cs with
  | nil => rfl
  | cons first rest =>
    induction rest generalizing first with
    | nil => rfl
    | cons next rest ih =>
      show rest.foldl (fun sofar next => sofar ++ text (connectiveGap next.1) ++ next.2)
        (first.2 ++ text (connectiveGap next.1) ++ next.2) = _
      rw [hfold, append_assoc]
      exact congrArg (fun f => first.2 ++ (text (connectiveGap next.1) ++ f)) (ih next)

lemma separates_connectiveGap (connective : Connective) : separates (connectiveGap connective) = true := by
  cases connective <;> decide

/-- **A chain is sealed if its last condition is**, and self-contained in any case. -/
lemma sealedIf_chain {raws : List (Option Fragment)} {cs : List (Connective × Fragment)}
    (h : List.Forall₂ (fun raw? c => SealedIf atEnd raw? c.2) raws cs) : SealedIf atEnd (endRaw? raws) (chain cs) := by
  have hvisible : ∀ connective, Text.trimEndChars (connectiveGap connective).toList ≠ [] := by
    intro connective
    cases connective <;> decide
  rw [chain_eq_gapped]
  refine .gapped (List.forall₂_map_right_iff.2 h) (fun part hpart => ?_) (.inl fun part hpart => ?_)
  · obtain ⟨c, -, rfl⟩ := List.mem_map.1 hpart
    exact separates_connectiveGap c.1
  · obtain ⟨c, -, rfl⟩ := List.mem_map.1 hpart
    exact hvisible c.1

lemma selfContained_derived {f : Fragment} (h : f.SelfContained) : (derived f).SelfContained :=
  (h.text_append (by decide) (by decide)).append (.of_gap (by decide))

/-! ### parts of a query -/

/-- A part with a word in front of its conditions may be trimmed if its last condition may. -/
lemma selfContained_conditions {word : String} (hcalm : word.toList.all LexState.isCalm = true)
    (hlast : Template.allowsMarker word.toList.getLast? = true) (hbegins : Begins word)
    {raws : List (Option Fragment)} {cs : List (Connective × Fragment)}
    (h : List.Forall₂ (fun raw? c => SealedIf atEnd raw? c.2) raws cs) (hend : ∀ f ∈ endRaw? raws, atEnd f) :
    (Fragment.text word ++ chain cs).trimmed.SelfContained := by
  have hchain := sealedIf_chain h
  have hsealed : (chain cs).Sealed := ⟨hchain.toSelfContained, hchain.stays hend⟩
  exact (hsealed.text_append hcalm hlast).trimmed (.inr (hbegins.append _))

/-- Joins may be trimmed if the last condition of the last one may. -/
lemma selfContained_joins {joins : List Join} {fs : List Fragment}
    (h : List.Forall₂ (fun join f => Begins f.sql ∧ SealedIf atEnd (clausesEnd? join.clauses) f) joins fs)
    (hend : ∀ f ∈ joinsEnd? joins, atEnd f) : (Fragment.join " " fs).trimmed.SelfContained := by
  obtain ⟨hbegins, hreads⟩ := (List.forall₂_and_left fs joins).1 h.flip
  have hparts : List.Forall₂ (fun raw? part => SealedIf atEnd raw? part.2)
      (joins.map fun join => clausesEnd? join.clauses) (fs.map fun f => (" ", f)) := by
    rw [List.forall₂_map_left_iff, List.forall₂_map_right_iff]
    exact hreads.flip
  have hgaps : ∀ part ∈ fs.map fun f => (" ", f), separates part.1 = true := by
    intro part hpart
    obtain ⟨f, -, rfl⟩ := List.mem_map.1 hpart
    have hspace : separates " " = true := by decide
    exact hspace
  have hvisible : ∀ part ∈ fs.map fun f => (" ", f), Begins part.2.sql := by
    intro part hpart
    obtain ⟨f, hf, rfl⟩ := List.mem_map.1 hpart
    exact hbegins f hf
  have hjoined := SealedIf.gapped hparts hgaps (.inr hvisible)
  rw [join_eq_gapped]
  have hsealed : (gapped (fs.map fun f => (" ", f))).Sealed := ⟨hjoined.toSelfContained, hjoined.stays hend⟩
  refine hsealed.trimmed ?_
  cases fs with
  | nil => exact .inl rfl
  | cons f fs => exact .inr (begins_gapped (List.cons_ne_nil _ _) hvisible)

/-- The compiled parts of a query: they are self-contained, those in a sentence when they are trimmed. -/
structure PartsContained (p : Parts) : Prop where
  aggregate : ∀ head ∈ p.aggregate, Spelled head
  joins : p.joins.trimmed.SelfContained
  clauses : p.clauses.trimmed.SelfContained
  havings : p.havings.trimmed.SelfContained
  lock : p.lock.trimmed.SelfContained
  branches : ∀ f ∈ p.branches, f.SelfContained

/-! ### assembling -/

section Assembling

variable (hcase : d.policy.caseSensitive = true) {q : Query} (hq : q.frame.RawFree d.policy.admits) {p : Parts}
  (hp : PartsContained p)

include hcase hq hp

lemma selfContained_singleSelect {head : String} (hhead : Spelled head) : (d.singleSelect q p head).SelfContained := by
  have hadmits : d.policy.admits d.policy.tablePrefix = true := Policy.admits_of_caseSensitive hcase _
  have hsource : Inlines (optionalPart (fun source => "from " ++ d.policy.table source) q.source) _ :=
    inlines_optionalPart fun source hsource =>
      spellsClauses_spelled.sourceClause hadmits ((Option.all_eq_true _ _).1 hq.source source hsource)
  have hgroups : Inlines (listedPart (fun groups => "group by " ++ d.policy.columns groups) q.groups) _ :=
    inlines_listedPart (spellsClauses_spelled.groupClause hadmits hq.groups)
  have horders : Inlines (listedPart d.orderClause q.orders) _ :=
    inlines_listedPart (spellsClauses_spelled.orderClause hadmits hq.orders)
  have hlimit : Inlines (optionalPart (countClause "limit") q.limit) _ :=
    inlines_optionalPart fun count _ => spellsClauses_spelled.countClause (d := d) (by decide) count
  have hoffset : Inlines (optionalPart (countClause "offset") q.offset) _ :=
    inlines_optionalPart fun count _ => spellsClauses_spelled.countClause (d := d) (by decide) count
  refine .sentence ?_
  simp only [List.forall_mem_cons]
  exact ⟨hhead.inlines.trimmed.selfContained, hsource.trimmed.selfContained, hp.joins, hp.clauses,
    hgroups.trimmed.selfContained, hp.havings, horders.trimmed.selfContained, hlimit.trimmed.selfContained,
    hoffset.trimmed.selfContained, hp.lock, List.forall_mem_nil _⟩

lemma selfContained_unitedSelect {head : String} (hhead : Spelled head) : (d.unitedSelect q p head).SelfContained := by
  have hfirst := selfContained_singleSelect hcase hq hp hhead
  have hcount : ∀ keyword ∈ clauseWords, ∀ count : Option UInt64,
      ∀ f ∈ (count.map fun n => Fragment.text (countClause keyword n)).toList, f.SelfContained := by
    intro keyword hkeyword count
    cases count with
    | none => exact List.forall_mem_nil _
    | some n =>
      exact List.forall_mem_singleton.2 (spellsClauses_spelled.countClause (d := d) hkeyword n).inlines.selfContained
  have horders : ∀ f ∈ if q.unionOrders.isEmpty then [] else [Fragment.text (d.orderClause q.unionOrders)],
      f.SelfContained := by
    split_ifs
    · exact List.forall_mem_nil _
    · exact List.forall_mem_singleton.2
        (spellsClauses_spelled.orderClause (Policy.admits_of_caseSensitive hcase _) hq.unionOrders).inlines.selfContained
  have hderived : ∀ f ∈ [derived (d.singleSelect q p head)], f.SelfContained :=
    List.forall_mem_singleton.2 (selfContained_derived hfirst)
  simp only [unitedSelect]
  by_cases hempty : p.branches.isEmpty = true
  · rw [if_pos hempty]
    exact hfirst
  · rw [if_neg hempty]
    refine .join (by decide) ?_
    refine List.forall_mem_append.2 ⟨List.forall_mem_append.2 ⟨List.forall_mem_append.2
      ⟨List.forall_mem_append.2 ⟨hderived, hp.branches⟩, horders⟩, ?_⟩, ?_⟩
    · exact hcount "limit" (by decide) q.unionLimit
    · exact hcount "offset" (by decide) q.unionOffset

lemma selfContained_assemble : (d.assemble q p).SelfContained := by
  have hadmits : d.policy.admits d.policy.tablePrefix = true := Policy.admits_of_caseSensitive hcase _
  have hlist : Spelled (d.columnList q) := spellsClauses_spelled.columnList hadmits hq.columns
  have hunited := selfContained_unitedSelect hcase hq hp hlist
  unfold assemble
  split
  · exact hunited
  · next head haggregate =>
    have hhead : Spelled head := hp.aggregate head haggregate
    split_ifs
    · exact selfContained_unitedSelect hcase hq hp hhead
    · have htable : Spelled (d.policy.table (.name "temp_table")) :=
        Policy.spelled_table hadmits (Policy.admits_of_caseSensitive hcase _)
      have hinner : (Fragment.text " from (" ++ d.unitedSelect q p (d.columnList q)).Follows :=
        .gap_append (by decide) hunited
      have hlabel : (Fragment.text ") as " ++ Fragment.text (d.policy.table (.name "temp_table"))).Follows :=
        .gap_append (by decide) htable.inlines.selfContained
      have hwhole := (hhead.inlines.selfContained.append hinner).append hlabel
      rwa [← append_assoc (Fragment.text head)] at hwhole

end Assembling

/-! ### compiling -/

section Compiling

variable (hcase : d.policy.caseSensitive = true) (hend : ∀ f : Fragment, f.SelfContained → atEnd f → f.StaysClosed)

lemma sealedIf_of_sealed {f : Fragment} (h : f.Sealed) : SealedIf atEnd none f := ⟨h.toSelfContained, fun _ => h.stays⟩

include hend in
lemma sealedIf_raw {f : Fragment} (h : f.SelfContained) : SealedIf atEnd (some f) f :=
  ⟨h, fun hraw => hend f h (hraw f rfl)⟩

include hcase hend in
lemma sealedIf_groupCondition {c : GroupCondition} (h : c.RawsAre SelfContained) :
    Yields (SealedIf atEnd c.raw?) (d.groupCondition c) := by
  have hfree : c.raw? = none → c.isRawFree anyName = true → Yields (SealedIf atEnd c.raw?) (d.groupCondition c) := by
    intro hraw hfree
    rw [← Policy.admits_eq_anyName hcase] at hfree
    rw [hraw]
    exact .of_lifts (lifts_groupCondition (Policy.admits_of_caseSensitive hcase _) hfree) fun _ _ hinlines =>
      sealedIf_of_sealed hinlines.sealed
  cases c with
  | compare column op operand => exact hfree rfl h
  | between column low high negated => exact hfree rfl h
  | raw sql bindings => exact .ok (sealedIf_raw hend h)

include hcase hend in
lemma selfContained_havingPart {havings : List Having} (h : ∀ h ∈ havings, h.condition.RawsAre SelfContained)
    (hlast : ∀ f ∈ havingsEnd? havings, atEnd f) :
    Yields (fun f => f.trimmed.SelfContained) (d.havingPart havings) := by
  have hconditions : Yields (List.Forall₂ (fun having c => SealedIf atEnd having.condition.raw? c.2) havings)
      (havings.mapM fun h => do return (h.connective, ← d.groupCondition h.condition)) :=
    .forall₂ fun having hmem => (sealedIf_groupCondition hcase hend (h having hmem)).bind fun f hf => .ok hf
  unfold havingPart
  split_ifs
  · exact .ok Inlines.empty.trimmed.selfContained
  · refine hconditions.bind fun cs hcs => .ok ?_
    exact selfContained_conditions (by decide) (by decide) (by decide) (List.forall₂_map_left_iff.2 hcs) hlast

include hcase in
lemma selfContained_select_of_parts {q : Query} (hq : q.RawParts SelfContained atEnd)
    (hhavings : Yields (fun f => f.trimmed.SelfContained) (d.havingPart q.havings))
    (hjoins : Yields (List.Forall₂ (fun join f => Begins f.sql ∧ SealedIf atEnd (clausesEnd? join.clauses) f) q.joins)
      (d.joinFragments q.joins))
    (hclauses : Yields (List.Forall₂ (fun clause c => SealedIf atEnd clause.condition.raw? c.2) q.clauses)
      (d.clauseFragments q.clauses))
    (hbranches : Yields (fun fs => ∀ f ∈ fs, f.SelfContained) (d.branchFragments q.branches)) :
    Yields SelfContained (d.select q) := by
  have hadmits : d.policy.admits d.policy.tablePrefix = true := Policy.admits_of_caseSensitive hcase _
  have hframe : q.frame.RawFree d.policy.admits := by
    rw [Policy.admits_eq_anyName hcase]
    exact Query.isRawFree_iff.1 hq.frame
  have haggregate : Yields (fun a => ∀ head ∈ a, Spelled head) (q.aggregate.mapM (d.aggregate q.distinct)) := by
    cases ha : q.aggregate with
    | none => exact .ok (by simp)
    | some a =>
      have hcolumns : a.columns.all (·.isName d.policy.admits) = true :=
        (Option.all_eq_true _ _).1 hframe.aggregate a ha
      have hhead : Yields Spelled (d.aggregate q.distinct a) :=
        .of_lifts (lifts_aggregate hadmits hframe.distinct hcolumns) fun _ _ hsame => hsame.2
      exact hhead.bind fun head hspelled => .ok (by simpa using hspelled)
  have hlock : Yields (fun lock => (Fragment.text lock).trimmed.SelfContained) (q.lock.elim (pure "") d.lock) := by
    cases q.lock with
    | none => exact .ok Inlines.empty.trimmed.selfContained
    | some l => exact .of_lifts (lifts_lock l) fun _ _ hsame => hsame.2.inlines.trimmed.selfContained
  have hwhere : ∀ cs, List.Forall₂ (fun clause c => SealedIf atEnd clause.condition.raw? c.2) q.clauses cs →
      (if cs.isEmpty then Fragment.empty else Fragment.text "where " ++ chain cs).trimmed.SelfContained := by
    intro cs hcs
    split_ifs
    · exact Inlines.empty.trimmed.selfContained
    · exact selfContained_conditions (by decide) (by decide) (by decide) (List.forall₂_map_left_iff.2 hcs) hq.clausesEnd
  rw [select_eq]
  refine haggregate.bind fun aggregate ha => hjoins.bind fun joins hj => hclauses.bind fun conditions hc => ?_
  refine hhavings.bind fun havings hh => hlock.bind fun lock hl => hbranches.bind fun branches hb => .ok ?_
  exact selfContained_assemble hcase hframe ⟨ha, selfContained_joins hj hq.joinsEnd, hwhere conditions hc, hh, hl, hb⟩

/-- What ends with a parenthesis may be trimmed. -/
lemma sealedIf_closed {opened : Fragment} (h : opened.SelfContained) :
    SealedIf atEnd none (opened ++ Fragment.text ")") :=
  sealedIf_of_sealed (.append h (.of_gap (by decide) (by decide)))

include hcase in
/-- A condition without raw SQL, and without queries in it that have any. -/
lemma sealedIf_condition_of_isRawFree {c : Condition} (hraw : c.raw? = none) (h : c.isRawFree anyName = true) :
    Yields (SealedIf atEnd c.raw?) (d.condition c) := by
  rw [← Policy.admits_eq_anyName hcase] at h
  rw [hraw]
  exact .of_lifts (lifts_condition (Policy.admits_of_caseSensitive hcase _) c h) fun _ _ hinlines =>
    sealedIf_of_sealed hinlines.sealed

lemma sealedIf_group {clauses : List Clause}
    (h : Yields (List.Forall₂ (fun clause c => SealedIf atEnd clause.condition.raw? c.2) clauses)
      (d.clauseFragments clauses)) :
    Yields (SealedIf atEnd none) (d.condition (.group clauses)) := by
  simp only [condition]
  split_ifs
  · exact .error _
  · refine h.bind fun cs hcs => .ok (sealedIf_closed ?_)
    exact (sealedIf_chain (List.forall₂_map_left_iff.2 hcs)).text_append (by decide) (by decide)

include hcase in
lemma sealedIf_choice {column : Reference} (hcolumn : column.isName anyName = true) (negated : Bool) {inner : Fragment}
    (h : inner.SelfContained) :
    SealedIf atEnd none (Fragment.text (d.policy.column column ++ " " ++ negatable negated "in" ++ " (") ++ inner ++
      Fragment.text ")") := by
  rw [← Policy.admits_eq_anyName hcase] at hcolumn
  have hcolumn := (Policy.spelled_column (Policy.admits_of_caseSensitive hcase _) hcolumn).inlines.selfContained
  have hopen : separates (" " ++ (negatable negated "in" ++ " (")) = true := by
    cases negated <;> decide
  have hopened := hcolumn.append (.gap_append hopen h)
  rw [← append_assoc, ← Fragment.text_append, ← String.append_assoc, ← String.append_assoc] at hopened
  exact sealedIf_closed hopened

mutual
/-- **Queries are self-contained**, with all that is inside them. -/
theorem selfContained_select (hcase : d.policy.caseSensitive = true)
    (hend : ∀ f : Fragment, f.SelfContained → atEnd f → f.StaysClosed) :
    ∀ q : Query, q.RawsAre SelfContained atEnd → Yields SelfContained (d.select q)
  | ⟨source, columns, distinct, aggregate, joins, clauses, groups, havings, orders, limit, offset, lock, branches,
      unionOrders, unionLimit, unionOffset⟩, h => by
    have hq := Query.rawsAre_iff.1 h
    exact selfContained_select_of_parts hcase hq (selfContained_havingPart hcase hend hq.havings hq.havingsEnd)
      (sealedIf_joinFragments hcase hend joins hq.joins) (sealedIf_clauseFragments hcase hend clauses hq.clauses)
      (selfContained_branchFragments hcase hend branches hq.branches)

theorem sealedIf_joinFragments (hcase : d.policy.caseSensitive = true)
    (hend : ∀ f : Fragment, f.SelfContained → atEnd f → f.StaysClosed) :
    ∀ joins : List Join, joinsRawsAre SelfContained atEnd joins →
      Yields (List.Forall₂ (fun join f => Begins f.sql ∧ SealedIf atEnd (clausesEnd? join.clauses) f) joins)
        (d.joinFragments joins)
  | [], _ => .ok .nil
  | ⟨kind, table, clauses⟩ :: joins, h => by
    obtain ⟨htable, hclauses, hjoins⟩ := h
    rw [← Policy.admits_eq_anyName hcase] at htable
    have hkind : Spelled kind.keyword := by
      cases kind <;> exact spelled_of_isCalm (by decide)
    have hjoined : Spelled (kind.keyword ++ " join " ++ d.policy.table table) :=
      (hkind.append_calm (by decide)).append (Policy.spelled_table (Policy.admits_of_caseSensitive hcase _) htable)
    have hbegins : Begins (kind.keyword ++ " join " ++ d.policy.table table) := by
      have hkeyword : Begins kind.keyword := by
        cases kind <;> decide
      exact (hkeyword.append _).append _
    refine (sealedIf_clauseFragments hcase hend clauses hclauses).bind fun cs hcs => ?_
    refine (sealedIf_joinFragments hcase hend joins hjoins).bind fun fs hfs => .ok (.cons ?_ hfs)
    have hchain := sealedIf_chain (List.forall₂_map_left_iff.2 hcs)
    split_ifs
    · exact ⟨hbegins, hjoined.inlines.selfContained, fun _ => hjoined.inlines.sealed.stays⟩
    · refine ⟨(hbegins.append _).append _, ?_⟩
      rw [append_assoc]
      refine ⟨hjoined.inlines.selfContained.append (.gap_append (by decide) hchain.toSelfContained), fun hraw => ?_⟩
      have hsealed : (chain cs).Sealed := ⟨hchain.toSelfContained, hchain.stays hraw⟩
      exact (Sealed.append hjoined.inlines.selfContained (.gap_append (by decide) hsealed (.inl (by decide)))).stays

theorem sealedIf_clauseFragments (hcase : d.policy.caseSensitive = true)
    (hend : ∀ f : Fragment, f.SelfContained → atEnd f → f.StaysClosed) :
    ∀ clauses : List Clause, clausesRawsAre SelfContained atEnd clauses →
      Yields (List.Forall₂ (fun clause c => SealedIf atEnd clause.condition.raw? c.2) clauses) (d.clauseFragments clauses)
  | [], _ => .ok .nil
  | ⟨connective, condition⟩ :: clauses, h => by
    refine (sealedIf_condition hcase hend condition h.1).bind fun f hf => ?_
    exact (sealedIf_clauseFragments hcase hend clauses h.2).bind fun cs hcs => .ok (.cons hf hcs)

theorem sealedIf_condition (hcase : d.policy.caseSensitive = true)
    (hend : ∀ f : Fragment, f.SelfContained → atEnd f → f.StaysClosed) :
    ∀ c : Condition, c.RawsAre SelfContained atEnd → Yields (SealedIf atEnd c.raw?) (d.condition c)
  | .group clauses, h => sealedIf_group (sealedIf_clauseFragments hcase hend clauses h)
  | .raw sql bindings, h => .ok (sealedIf_raw hend h)
  | .existsRow query negated, h => by
    refine (selfContained_select hcase hend query h).bind fun f hf => .ok (sealedIf_closed (hf.text_append ?_ ?_))
    · cases negated <;> decide
    · cases negated <;> decide
  | .amongRows column query negated, h =>
    (selfContained_select hcase hend query h.2).bind fun f hf => .ok (sealedIf_choice hcase h.1 negated hf)
  | .compare column op operand, h => sealedIf_condition_of_isRawFree hcase rfl h
  | .compareColumns first op second, h => sealedIf_condition_of_isRawFree hcase rfl h
  | .among column operands negated, h => sealedIf_condition_of_isRawFree hcase rfl h
  | .isNull column negated, h => sealedIf_condition_of_isRawFree hcase rfl h
  | .between column low high negated, h => sealedIf_condition_of_isRawFree hcase rfl h
  | .comparePart part column op operand, h => sealedIf_condition_of_isRawFree hcase rfl h

theorem selfContained_branchFragments (hcase : d.policy.caseSensitive = true)
    (hend : ∀ f : Fragment, f.SelfContained → atEnd f → f.StaysClosed) :
    ∀ branches : List Branch, branchesRawsAre SelfContained atEnd branches →
      Yields (fun fs => ∀ f ∈ fs, f.SelfContained) (d.branchFragments branches)
  | [], _ => .ok (List.forall_mem_nil _)
  | ⟨query, keepAll⟩ :: branches, h => by
    refine (selfContained_select hcase hend query h.1).bind fun f hf => ?_
    refine (selfContained_branchFragments hcase hend branches h.2).bind fun fs hfs => .ok ?_
    refine List.forall_mem_cons.2 ⟨(selfContained_derived hf).text_append ?_ ?_, hfs⟩
    · split_ifs <;> decide
    · split_ifs <;> decide
end

end Compiling

/-! ### texts that do not stay closed -/

/-- A query with a raw condition and a range of groups behind it. -/
def behind (f : Fragment) : Query :=
  { Query.empty with
    clauses := [⟨.and, .raw f.sql f.bindings⟩]
    havings := [⟨.and, .between (.name "c") (.value (.int 1)) (.value (.int 2)) false⟩] }

lemma rawsAre_behind {f : Fragment} (hf : f.SelfContained) (hend : atEnd f) : (behind f).RawsAre SelfContained atEnd := by
  refine Query.rawsAre_iff.2 ⟨rfl, trivial, nofun, ⟨hf, trivial⟩, ?_, ?_, nofun, trivial⟩
  · rintro g hg
    obtain rfl : f = g := Option.some.inj hg
    exact hend
  · exact List.forall_mem_singleton.2 rfl

/-- The text of such a query: the raw condition is trimmed. -/
def behindText (f : Fragment) : String :=
  "select * where " ++ String.ofList (Text.trimEndChars f.sql.toList) ++ " having \"c\" between ? and ?"

lemma between_behind (hcase : d.policy.caseSensitive = true) :
    d.between (.name "c") (.value (.int 1)) (.value (.int 2)) false = ⟨"\"c\" between ? and ?", [.int 1, .int 2]⟩ := by
  have hplain : IsPlainName "c" := by decide
  have hcolumn : d.policy.columnName "c" = "\"c\"" := by
    rw [Policy.columnName_of_plain hplain, Policy.identifier_of_caseSensitive hcase (by decide)]
    decide
  refine (Fragment.mk.injEq ..).mpr ⟨?_, rfl⟩
  show d.policy.columnName "c" ++ " " ++ "between" ++ " " ++ "?" ++ " and " ++ "?" = _
  rw [hcolumn]
  decide

lemma select_behind (hcase : d.policy.caseSensitive = true) {f : Fragment}
    (hvisible : Text.trimEndChars f.sql.toList ≠ []) :
    d.select (behind f) = .ok ⟨behindText f, f.bindings ++ [.int 1, .int 2]⟩ := by
  have hselect : d.select (behind f) = .ok (.sentence [.text "select *", .empty, .empty, .text "where " ++ f, .empty,
      .text "having " ++ d.between (.name "c") (.value (.int 1)) (.value (.int 2)) false, .empty, .empty, .empty,
      .empty]) := by
    rw [select_eq]
    rfl
  have hhead : Text.trim (Fragment.text "select *").sql = "select *" := by decide
  have hwhere : ending (.text "where " ++ f) = " " ++ ("where " ++ String.ofList (Text.trimEndChars f.sql.toList)) := by
    have hstart : Text.trimStartChars ("where ".toList ++ f.sql.toList) = "where ".toList ++ f.sql.toList := rfl
    rw [ending, sql_append, sql_text, if_neg (Text.trim_append_ne_empty (c := 'w') (by decide) (by decide) _), Text.trim,
      Text.trimChars, String.toList_append, hstart, Text.trimEndChars_append, if_neg hvisible, String.ofList_append,
      String.ofList_toList]
  have hhaving : ending (.text "having " ++ ⟨"\"c\" between ? and ?", [.int 1, .int 2]⟩) =
      " having \"c\" between ? and ?" := by
    decide
  have hwords : "select * where " = "select *" ++ (" " ++ "where ") := by decide
  rw [hselect, between_behind hcase, sentence_cons (by rw [hhead]; decide), hhead]
  refine congrArg Except.ok ((Fragment.mk.injEq ..).mpr ⟨?_, ?_⟩)
  · simp only [List.map_cons, List.map_nil, hwhere, hhaving, ending_empty, String.join_cons, String.join_nil,
      String.empty_append, String.append_empty]
    rw [behindText, hwords]
    simp only [String.append_assoc]
  · simp [Fragment.empty]

/-- Behind a text that does not stay closed no placeholder is read. -/
lemma positionalCount_behind {f : Fragment} (hf : f.SelfContained) (hopen : ¬ f.StaysClosed) :
    (Template.parse (behindText f)).positionalCount = f.bindings.length := by
  obtain ⟨blanks, happend, hblanks⟩ := Text.trimEndChars_append_blanks f.sql.toList
  rw [behindText]
  generalize hkept : Text.trimEndChars f.sql.toList = kept at happend ⊢
  rw [StaysClosed, hkept, Bool.not_eq_true] at hopen
  have hclosed := hf.closed
  rw [← happend, LexState.run_append] at hclosed
  have hstart : LexState.run .code "select * where ".toList = .code := by decide
  have hline : LexState.run .code ("select * where ".toList ++ kept) = .line := by
    rw [LexState.run_append, hstart]
    exact LexState.eq_line_of_run_isBlank hblanks hopen hclosed
  have hrest : LexState.Leads (LexState.run .code ("select * where ".toList ++ kept))
      " having \"c\" between ? and ?".toList .line := by
    rw [hline]
    exact LexState.leads_line (by decide)
  -- the same text without the trimming
  have hblank : (Template.parse (String.ofList ("select * where ".toList ++ kept ++ blanks))).positionalCount =
      (Template.parse (String.ofList ("select * where ".toList ++ kept))).positionalCount :=
    (Template.parse_append_of_leads (LexState.leads_of_isBlank hblanks _) (head?_any_of_isBlank hblanks)).2
  have hwhole : (Template.parse ("select * where " ++ f.sql)).positionalCount = f.bindings.length :=
    (SelfContained.text_append (by decide) (by decide) hf).count
  have htext : "select * where " ++ String.ofList kept ++ " having \"c\" between ? and ?" =
      String.ofList ("select * where ".toList ++ kept ++ " having \"c\" between ? and ?".toList) := by
    simp only [String.ofList_append, String.ofList_toList]
  rw [htext, (Template.parse_append_of_leads hrest (by decide)).2, ← hblank, List.append_assoc, happend,
    String.ofList_append, String.ofList_toList, String.ofList_toList, hwhole]

/-- **A query of self-contained raw conditions keeps its placeholders, provided that those at the ends of its parts stay
closed when they are trimmed**, and no weaker proviso would do. -/
theorem keepsPlaceholders_iff (hcase : d.policy.caseSensitive = true) (allowed : Fragment → Prop) :
    (∀ q f, q.RawsAre SelfContained allowed → d.select q = .ok f →
        (Template.parse f.sql).positionalCount = f.bindings.length ∧ (Template.parse f.sql).names = []) ↔
      ∀ f : Fragment, f.SelfContained → allowed f → f.StaysClosed := by
  constructor
  · intro h f hf hallowed
    by_contra hopen
    have hvisible : Text.trimEndChars f.sql.toList ≠ [] := by
      intro hnil
      rw [StaysClosed, hnil] at hopen
      exact hopen rfl
    have hcount := (h _ _ (rawsAre_behind hf hallowed) (select_behind hcase hvisible)).1
    rw [positionalCount_behind hf hopen, List.length_append] at hcount
    exact absurd hcount (Nat.ne_of_lt (Nat.lt_add_of_pos_right (by decide)))
  · intro h q f hq hf
    have hself := selfContained_select hcase h q hq f hf
    exact ⟨hself.count, hself.names⟩

/-- Rooms by a raw condition with a comment in it, grouped. -/
def annotatedRooms : Query :=
  { Query.empty with
    source := some (.name "room")
    clauses := [⟨.and, .raw "size > ? -- in rows?\nand note <> '?'" [.int 3]⟩]
    groups := [.name "floor"]
    havings := [⟨.and, .between (.name "floor") (.value (.int 1)) (.value (.int 2)) false⟩] }

theorem keepsPlaceholders_iff_annotatedRooms :
    let d : Dialect := ⟨{ caseSensitive := true }, .lenient⟩
    let selected : Fragment := ⟨"select * from \"room\" where size > ? -- in rows?\nand note <> '?' group by \"floor\" "
      ++ "having \"floor\" between ? and ?", [.int 3, .int 1, .int 2]⟩
    d.policy.caseSensitive = true ∧ annotatedRooms.RawsAre SelfContained StaysClosed ∧
      d.select annotatedRooms = .ok selected ∧
      (Template.parse selected.sql).positionalCount = 3 ∧ (Template.parse selected.sql).names = [] := by
  intro d selected
  have hself : SelfContained ⟨"size > ? -- in rows?\nand note <> '?'", [.int 3]⟩ :=
    ⟨by decide +kernel, by decide +kernel, by decide +kernel⟩
  have hstays : StaysClosed ⟨"size > ? -- in rows?\nand note <> '?'", [.int 3]⟩ := by
    show (LexState.run _ _).isCode = true
    decide +kernel
  have hraws : annotatedRooms.RawsAre SelfContained StaysClosed := by
    refine Query.rawsAre_iff.2
      ⟨rfl, trivial, nofun, ⟨hself, trivial⟩, ?_, List.forall_mem_singleton.2 rfl, nofun, trivial⟩
    rintro f hf
    obtain rfl := Option.some.inj hf
    exact hstays
  have hselected : d.select annotatedRooms = .ok selected := by decide +kernel
  exact ⟨rfl, hraws, hselected,
    (keepsPlaceholders_iff rfl StaysClosed).2 (fun _ _ hstays => hstays) annotatedRooms selected hraws hselected⟩

/-- Rooms by a raw condition that ends in a comment, grouped. -/
def commentedRooms : Query :=
  { annotatedRooms with clauses := [⟨.and, .raw "size > ? -- in rows\n" [.int 3]⟩] }

theorem exists_marker_swallowed :
    let d : Dialect := ⟨{ caseSensitive := true }, .lenient⟩
    let selected : Fragment := ⟨"select * from \"room\" where size > ? -- in rows group by \"floor\" having \"floor\" "
      ++ "between ? and ?", [.int 3, .int 1, .int 2]⟩
    d.policy.caseSensitive = true ∧ commentedRooms.RawsAre SelfContained (fun _ => True) ∧
      d.select commentedRooms = .ok selected ∧ (Template.parse selected.sql).positionalCount = 1 := by
  intro d selected
  have hself : SelfContained ⟨"size > ? -- in rows\n", [.int 3]⟩ :=
    ⟨by decide +kernel, by decide +kernel, by decide +kernel⟩
  refine ⟨rfl, Query.rawsAre_iff.2 ⟨rfl, trivial, nofun, ⟨hself, trivial⟩, fun _ _ => trivial,
    List.forall_mem_singleton.2 rfl, nofun, trivial⟩, by decide +kernel, by decide +kernel⟩

end Dialect

end WarehouseSql
