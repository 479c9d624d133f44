import WarehouseSql.Proofs.Query.Clauses

/-!
Queries with all that is inside them.  The compiled parts of a query inline one by one (`PartsInline`), the statement
put together from them does too (`inlines_assemble`), and so, by induction over queries, joins, clauses and branches,
**every query without raw SQL compiles to the same SQL with its literals in place of its placeholders**
(`lifts_select`).
-/

namespace WarehouseSql

open Fragment
open Compiled (Lifts)

namespace Dialect

variable {d : Dialect}

/-! ### clauses without values -/

/-- The words in clauses without values. -/
def clauseWords : List String :=
  ["*", " ", "select ", "select distinct ", "distinct ", "from ", "group by ", "order by ", "asc", "desc", "limit",
    "offset"]

/-- A property of texts that names have, and the words and numbers of clauses too. -/
structure SpellsClauses (d : Dialect) (P : String → Prop) : Prop extends d.policy.Spells P where
  keyword : ∀ text ∈ clauseWords, P text
  integer : ∀ n : Nat, P (integerText n)

namespace SpellsClauses

variable {P : String → Prop} (hP : d.SpellsClauses P)

include hP

lemma countClause {keyword : String} (h : keyword ∈ clauseWords) (count : UInt64) :
    P (Dialect.countClause keyword count) :=
  hP.append (hP.append (hP.keyword keyword h) (hP.keyword " " (by decide))) (hP.integer _)

variable (hadmits : d.policy.admits d.policy.tablePrefix = true)

include hadmits

lemma sourceClause {source : Reference} (h : source.isName d.policy.admits = true) :
    P ("from " ++ d.policy.table source) :=
  hP.append (hP.keyword "from " (by decide)) (hP.table hadmits h)

lemma groupClause {groups : List Reference} (h : groups.all (·.isName d.policy.admits) = true) :
    P ("group by " ++ d.policy.columns groups) :=
  hP.append (hP.keyword "group by " (by decide)) (hP.columns hadmits h)

lemma orderClause {orders : List Order} (h : orders.all (·.isRawFree d.policy.admits) = true) :
    P (d.orderClause orders) := by
  refine hP.append (hP.keyword "order by " (by decide)) (hP.commaList fun piece hpiece => ?_)
  obtain ⟨order, horder, rfl⟩ := List.mem_map.1 hpiece
  have hfree := List.all_eq_true.1 h order horder
  cases order with
  | raw sql => cases hfree
  | column column direction =>
    have hdirection : P direction.keyword := by
      cases direction <;> exact hP.keyword _ (by decide)
    exact hP.append (hP.append (hP.column hadmits hfree) (hP.keyword " " (by decide))) hdirection

lemma ownColumns {columns : List Reference} (h : columns.all (·.isName d.policy.admits) = true) :
    P (if columns.isEmpty then "*" else d.policy.columns columns) := by
  split_ifs
  · exact hP.keyword "*" (by decide)
  · exact hP.columns hadmits h

lemma aggregateRange {distinct : Distinct} (hdistinct : distinct.isNamed d.policy.admits = true)
    {columns : List Reference} (hcolumns : columns.all (·.isName d.policy.admits) = true) :
    P (d.aggregateRange distinct columns) := by
  have hown := hP.ownColumns hadmits hcolumns
  have hdistinctly : P "distinct " := hP.keyword "distinct " (by decide)
  simp only [Dialect.aggregateRange]
  generalize (if columns.isEmpty then "*" else d.policy.columns columns) = own at hown
  cases distinct with
  | off => exact hown
  | all =>
    dsimp only
    split_ifs
    · exact hown
    · exact hP.append hdistinctly hown
  | columns names => exact hP.append hdistinctly (hP.columnNames hadmits hdistinct)

lemma columnList {q : Query} (hcolumns : q.columns.all (·.isName d.policy.admits) = true) : P (d.columnList q) := by
  have hhead : P (if q.distinct.isSet then "select distinct " else "select ") := by
    split_ifs <;> exact hP.keyword _ (by decide)
  exact hP.append hhead (hP.ownColumns hadmits hcolumns)

end SpellsClauses

lemma spellsClauses_spelled : d.SpellsClauses Spelled where
  toSpells := Policy.spells_spelled
  keyword text htext := by
    have hcalm : clauseWords.all (fun word => word.toList.all LexState.isCalm) = true := by decide
    exact spelled_of_isCalm (List.all_eq_true.1 hcalm text htext)
  integer n := by
    have htext : integerText n = String.ofList (Decimal.digits n) := by
      simp [integerText, Binary64.signed]
    rw [htext]
    refine spelled_of_isCalm (List.all_eq_true.2 fun c hc => isCalm_of_isDecimalChar ?_)
    rw [String.toList_ofList] at hc
    exact isDecimalChar_of_mem_digits hc

/-! ### texts of clauses -/

/-- Conditions with the same connectives. -/
def ChainsInline : List (Connective × Fragment) → List (Connective × Fragment) → Prop :=
  List.Forall₂ fun a b => a.1 = b.1 ∧ Inlines a.2 b.2

lemma inlines_chain {cs cs' : List (Connective × Fragment)} (h : ChainsInline cs cs') :
    Inlines (chain cs) (chain cs') := by
  have hfold : ∀ {rest rest'}, ChainsInline rest rest' → ∀ {first first'}, Inlines first first' →
      Inlines
        (rest.foldl (fun sofar next => sofar ++ text (" " ++ next.1.keyword ++ " ") ++ next.2) first)
        (rest'.foldl (fun sofar next => sofar ++ text (" " ++ next.1.keyword ++ " ") ++ next.2) first') := by
    intro rest rest' hrest
    induction hrest with
    | nil => exact fun hfirst => hfirst
    | @cons next next' _ _ hnext _ ih =>
      intro first first' hfirst
      have hkeyword : Spelled (" " ++ next.1.keyword ++ " ") := by
        cases next.1 <;> exact spelled_of_isCalm (by decide)
      rw [List.foldl_cons, List.foldl_cons, ← hnext.1]
      exact ih ((hfirst.append hkeyword).append hnext.2)
  cases h with
  | nil => exact .empty
  | cons hfirst hrest => exact hfold hrest hfirst.2

lemma isEmpty_eq {α β : Type} {R : α → β → Prop} {as : List α} {bs : List β} (h : List.Forall₂ R as bs) :
    bs.isEmpty = as.isEmpty := by
  cases h <;> rfl

lemma inlines_where {cs cs' : List (Connective × Fragment)} (h : ChainsInline cs cs') :
    Inlines (if cs.isEmpty then .empty else text "where " ++ chain cs)
      (if cs'.isEmpty then .empty else text "where " ++ chain cs') := by
  have hkeyword : Spelled "where " := spelled_of_isCalm (by decide)
  rw [isEmpty_eq h]
  split_ifs
  · exact .empty
  · exact hkeyword.inlines.append (inlines_chain h)

lemma inlines_optionalPart {α : Type} {write : α → String} {part : Option α}
    (h : ∀ a ∈ part, Spelled (write a)) : Inlines (optionalPart write part) (optionalPart write part) := by
  cases part with
  | none => exact .empty
  | some a => exact h a rfl

lemma inlines_listedPart {α : Type} {write : List α → String} {items : List α} (h : Spelled (write items)) :
    Inlines (listedPart write items) (listedPart write items) := by
  unfold listedPart
  split_ifs
  · exact .empty
  · exact h

lemma inlines_derived {f g : Fragment} (h : Inlines f g) : Inlines (derived f) (derived g) := by
  have hopen : Spelled "select * from (" := spelled_of_isCalm (by decide)
  have hclose : Spelled ")" := spelled_of_isCalm (by decide)
  exact (hopen.inlines.append h).append hclose

lemma lifts_lock (l : Lock) : Lifts SameSpelled (d.lock l) (d.lock l) := by
  unfold lock
  split
  · exact .error _ _
  · exact .ok ⟨rfl, spelled_of_isCalm (by decide)⟩

variable (hadmits : d.policy.admits d.policy.tablePrefix = true)

include hadmits

lemma lifts_havingClause {havings : List Having}
    (h : havings.all (fun h => h.condition.isRawFree d.policy.admits) = true) :
    Lifts Inlines (d.havingClause havings) (d.havingClause (havings.map Having.inlined)) := by
  have hconditions : Lifts ChainsInline
      (havings.mapM fun h => do return (h.connective, ← d.groupCondition h.condition))
      ((havings.map Having.inlined).mapM fun h => do return (h.connective, ← d.groupCondition h.condition)) :=
    .mapM fun having hmem =>
      (lifts_groupCondition hadmits (List.all_eq_true.1 h having hmem)).bind fun f g hfg => .ok ⟨rfl, hfg⟩
  have hkeyword : Spelled "having " := spelled_of_isCalm (by decide)
  exact hconditions.bind fun cs cs' hcs => .ok (hkeyword.inlines.append (inlines_chain hcs))

lemma lifts_aggregate {distinct : Distinct} (hdistinct : distinct.isNamed d.policy.admits = true) {a : Aggregate}
    (ha : a.columns.all (·.isName d.policy.admits) = true) :
    Lifts SameSpelled (d.aggregate distinct a) (d.aggregate distinct a) := by
  simp only [aggregate]
  split_ifs with hname
  · refine .ok ⟨rfl, ?_⟩
    have hfunction : Spelled (Text.trim a.function) := by
      simp only [isFunctionName, Bool.and_eq_true] at hname
      refine spelled_of_isCalm (List.all_eq_true.2 fun c hc => isCalm_of_isNameChar ?_)
      have hc' := List.all_eq_true.1 hname.2 c hc
      simp only [isNameChar, Bool.or_eq_true] at hc' ⊢
      exact .inl (.inl hc')
    have hselect : Spelled "select " := spelled_of_isCalm (by decide)
    have hlabel : Spelled ") as \"aggregate\"" := by
      have hquoted : ") as \"aggregate\"" = ") as " ++ Text.quoteIdentifier "aggregate" := by decide +kernel
      rw [hquoted]
      exact Spelled.calm_append (by decide) (spelled_quoteIdentifier _)
    have hrange := spellsClauses_spelled.aggregateRange hadmits hdistinct ha
    exact (((hselect.append hfunction).append_calm (by decide)).append hrange).append hlabel
  · exact .error _ _

/-! ### assembling -/

omit hadmits in
/-- The parts of a query, with placeholders and with literals. -/
structure PartsInline (p p' : Parts) : Prop where
  aggregate : p.aggregate = p'.aggregate
  spelled : ∀ head ∈ p.aggregate, Spelled head
  joins : Inlines p.joins p'.joins
  clauses : Inlines p.clauses p'.clauses
  havings : Inlines p.havings p'.havings
  lock : Inlines p.lock p'.lock
  branches : List.Forall₂ Inlines p.branches p'.branches

variable {q : Query} (hq : q.RawFree d.policy.admits) {p p' : Parts} (hp : PartsInline p p')

include hq hp

lemma inlines_singleSelect {head : String} (hhead : Spelled head) :
    Inlines (d.singleSelect q p head) (d.singleSelect q.inlined p' head) := by
  rw [Query.inlined_eq]
  have hsource : Inlines (optionalPart (fun source => "from " ++ d.policy.table source) q.source)
      (optionalPart (fun source => "from " ++ d.policy.table source) q.source) := by
    refine inlines_optionalPart fun source hsource => ?_
    exact spellsClauses_spelled.sourceClause hadmits ((Option.all_eq_true _ _).1 hq.source source hsource)
  have hgroups : Inlines (listedPart (fun groups => "group by " ++ d.policy.columns groups) q.groups)
      (listedPart (fun groups => "group by " ++ d.policy.columns groups) q.groups) :=
    inlines_listedPart (spellsClauses_spelled.groupClause hadmits hq.groups)
  have horders : Inlines (listedPart d.orderClause q.orders) (listedPart d.orderClause q.orders) :=
    inlines_listedPart (spellsClauses_spelled.orderClause hadmits hq.orders)
  have hlimit : Inlines (optionalPart (countClause "limit") q.limit) (optionalPart (countClause "limit") q.limit) :=
    inlines_optionalPart fun count _ => spellsClauses_spelled.countClause (d := d) (by decide) count
  have hoffset : Inlines (optionalPart (countClause "offset") q.offset)
      (optionalPart (countClause "offset") q.offset) :=
    inlines_optionalPart fun count _ => spellsClauses_spelled.countClause (d := d) (by decide) count
  exact .sentence (.cons hhead (.cons hsource (.cons hp.joins (.cons hp.clauses (.cons hgroups (.cons hp.havings
    (.cons horders (.cons hlimit (.cons hoffset (.cons hp.lock .nil))))))))))

lemma inlines_unitedSelect {head : String} (hhead : Spelled head) :
    Inlines (d.unitedSelect q p head) (d.unitedSelect q.inlined p' head) := by
  have hfirst := inlines_singleSelect hadmits hq hp hhead
  have hcount : ∀ keyword ∈ clauseWords, ∀ count : Option UInt64,
      List.Forall₂ Inlines (count.map fun n => text (countClause keyword n)).toList
        (count.map fun n => text (countClause keyword n)).toList := by
    intro keyword hkeyword count
    cases count with
    | none => exact .nil
    | some n => exact .cons (spellsClauses_spelled.countClause (d := d) hkeyword n) .nil
  have horders : List.Forall₂ Inlines (if q.unionOrders.isEmpty then [] else [text (d.orderClause q.unionOrders)])
      (if q.unionOrders.isEmpty then [] else [text (d.orderClause q.unionOrders)]) := by
    split_ifs
    · exact .nil
    · exact .cons (spellsClauses_spelled.orderClause hadmits hq.unionOrders) .nil
  have hlimit := hcount "limit" (by decide) q.unionLimit
  have hoffset := hcount "offset" (by decide) q.unionOffset
  simp only [unitedSelect, isEmpty_eq hp.branches]
  by_cases hempty : p.branches.isEmpty = true
  · rw [if_pos hempty, if_pos hempty]
    exact hfirst
  · rw [if_neg hempty, if_neg hempty]
    rw [Query.inlined_eq] at hfirst ⊢
    have hderived : List.Forall₂ Inlines [derived (d.singleSelect q p head)] [derived (d.singleSelect _ p' head)] :=
      .cons (inlines_derived hfirst) .nil
    have hbody := List.rel_append hderived hp.branches
    have htail := List.rel_append (List.rel_append (List.rel_append hbody horders) hlimit) hoffset
    exact .join (spelled_of_isCalm (by decide)) htail

lemma inlines_assemble : Inlines (d.assemble q p) (d.assemble q.inlined p') := by
  have hlist : Spelled (d.columnList q) := spellsClauses_spelled.columnList hadmits hq.columns
  have hunited := inlines_unitedSelect hadmits hq hp hlist
  have hcolumns : d.columnList q.inlined = d.columnList q := by
    rw [Query.inlined_eq]
    rfl
  have hempty : (p'.branches.isEmpty && q.inlined.havings.isEmpty) = (p.branches.isEmpty && q.havings.isEmpty) := by
    rw [isEmpty_eq hp.branches, Query.inlined_eq, List.isEmpty_map]
  rw [assemble, assemble, ← hp.aggregate, hempty, hcolumns]
  cases haggregate : p.aggregate with
  | none => exact hunited
  | some head =>
    have hhead : Spelled head := hp.spelled head haggregate
    dsimp only
    split_ifs
    · exact inlines_unitedSelect hadmits hq hp hhead
    · have hopen : Spelled (head ++ " from (") := hhead.append_calm (by decide)
      have htable : Spelled (d.policy.table (.name "temp_table")) :=
        Policy.spelled_table hadmits (Policy.admits_of_all_isNameChar (by decide))
      have hclose : Spelled (") as " ++ d.policy.table (.name "temp_table")) := Spelled.calm_append (by decide) htable
      exact (hopen.inlines.append hunited).append hclose

/-! ### compiling -/

omit hadmits hq hp in
def havingPart (d : Dialect) (havings : List Having) : Compiled Fragment :=
  if havings.isEmpty then pure .empty else d.havingClause havings

omit hadmits hq hp in
/-- A query is compiled part by part. -/
lemma select_eq (d : Dialect) (q : Query) :
    d.select q = do
      let aggregate ← q.aggregate.mapM (d.aggregate q.distinct)
      let joins ← d.joinFragments q.joins
      let conditions ← d.clauseFragments q.clauses
      let havings ← d.havingPart q.havings
      let lock ← q.lock.elim (pure "") d.lock
      let branches ← d.branchFragments q.branches
      return d.assemble q
        { aggregate
          joins := .join " " joins
          clauses := if conditions.isEmpty then .empty else Fragment.text "where " ++ chain conditions
          havings
          lock := .text lock
          branches } := by
  cases q
  simp only [select, havingPart]
  refine congrArg _ (funext fun aggregate => congrArg _ (funext fun joins => congrArg _ (funext fun conditions => ?_)))
  split_ifs <;> rfl

omit hp in
lemma lifts_select_of_parts (hjoins : Lifts (List.Forall₂ Inlines) (d.joinFragments q.joins)
      (d.joinFragments (joinsInlined q.joins)))
    (hclauses : Lifts ChainsInline (d.clauseFragments q.clauses) (d.clauseFragments (clausesInlined q.clauses)))
    (hbranches : Lifts (List.Forall₂ Inlines) (d.branchFragments q.branches)
      (d.branchFragments (branchesInlined q.branches))) :
    Lifts Inlines (d.select q) (d.select q.inlined) := by
  have haggregate : Lifts (fun a b => a = b ∧ ∀ head ∈ a, Spelled head)
      (q.aggregate.mapM (d.aggregate q.distinct)) (q.aggregate.mapM (d.aggregate q.distinct)) := by
    cases ha : q.aggregate with
    | none => exact .ok ⟨rfl, by simp⟩
    | some a =>
      have hcolumns : a.columns.all (·.isName d.policy.admits) = true := by simpa [ha] using hq.aggregate
      exact (lifts_aggregate hadmits hq.distinct hcolumns).map fun s t hst =>
        ⟨congrArg some hst.1, by simpa using hst.2⟩
  have hhavings : Lifts Inlines (d.havingPart q.havings) (d.havingPart (q.havings.map Having.inlined)) := by
    rw [havingPart, havingPart, List.isEmpty_map]
    split_ifs
    · exact .ok .empty
    · exact lifts_havingClause hadmits hq.havings
  have hlock : Lifts SameSpelled (q.lock.elim (pure "") d.lock) (q.lock.elim (pure "") d.lock) := by
    cases q.lock with
    | none => exact .ok ⟨rfl, spelled_of_isCalm (by decide)⟩
    | some l => exact lifts_lock l
  have hassemble : ∀ p p', PartsInline p p' → Inlines (d.assemble q p) (d.assemble q.inlined p') :=
    fun p p' hp => inlines_assemble hadmits hq hp
  rw [select_eq, select_eq]
  rw [Query.inlined_eq] at hassemble ⊢
  -- the parts are compiled in this order, and the first failure is that of the whole
  refine haggregate.bind ?_
  rintro aggregate _ ⟨rfl, hspelled⟩
  refine hjoins.bind fun joins joins' hj => hclauses.bind fun clauses clauses' hc => ?_
  refine hhavings.bind fun havings havings' hh => hlock.bind ?_
  rintro lock _ ⟨rfl, hl⟩
  refine hbranches.bind fun branches branches' hb => .ok (hassemble _ _ ?_)
  exact ⟨rfl, hspelled, .join (spelled_of_isCalm (by decide)) hj, inlines_where hc, hh, hl, hb⟩

end Dialect

namespace Dialect

variable {d : Dialect}

lemma lifts_group {clauses : List Clause}
    (h : Lifts ChainsInline (d.clauseFragments clauses) (d.clauseFragments (clausesInlined clauses))) :
    Lifts Inlines (d.condition (.group clauses)) (d.condition (.group (clausesInlined clauses))) := by
  have hempty : (clausesInlined clauses).isEmpty = clauses.isEmpty := by
    cases clauses with
    | nil => rfl
    | cons clause clauses => cases clause; rfl
  have hopen : Spelled "(" := spelled_of_isCalm (by decide)
  have hclose : Spelled ")" := spelled_of_isCalm (by decide)
  simp only [condition, hempty]
  split_ifs
  · exact .error _ _
  · exact h.bind fun cs cs' hcs => .ok ((hopen.inlines.append (inlines_chain hcs)).append hclose)

mutual
/-- **Queries inline**, with all that is inside them. -/
theorem lifts_select (hadmits : d.policy.admits d.policy.tablePrefix = true) :
    ∀ q : Query, q.isRawFree d.policy.admits = true → Lifts Inlines (d.select q) (d.select q.inlined)
  | ⟨source, columns, distinct, aggregate, joins, clauses, groups, havings, orders, limit, offset, lock, branches,
      unionOrders, unionLimit, unionOffset⟩, h => by
    have hq := Query.isRawFree_iff.1 h
    exact lifts_select_of_parts hadmits hq (lifts_joinFragments hadmits joins hq.joins)
      (lifts_clauseFragments hadmits clauses hq.clauses) (lifts_branchFragments hadmits branches hq.branches)

theorem lifts_joinFragments (hadmits : d.policy.admits d.policy.tablePrefix = true) :
    ∀ joins : List Join, joinsRawFree d.policy.admits joins = true →
      Lifts (List.Forall₂ Inlines) (d.joinFragments joins) (d.joinFragments (joinsInlined joins))
  | [], _ => .ok .nil
  | ⟨kind, table, clauses⟩ :: joins, h => by
    simp only [joinsRawFree, Bool.and_eq_true] at h
    obtain ⟨⟨htable, hclauses⟩, hjoins⟩ := h
    have hkind : Spelled kind.keyword := by
      cases kind <;> exact spelled_of_isCalm (by decide)
    have hjoined : Spelled (kind.keyword ++ " join " ++ d.policy.table table) :=
      (hkind.append_calm (by decide)).append (Policy.spelled_table hadmits htable)
    have hon : Spelled " on " := spelled_of_isCalm (by decide)
    refine (lifts_clauseFragments hadmits clauses hclauses).bind fun cs cs' hcs => ?_
    refine (lifts_joinFragments hadmits joins hjoins).bind fun fs fs' hfs => .ok (.cons ?_ hfs)
    rw [isEmpty_eq hcs]
    split_ifs
    · exact hjoined
    · exact (hjoined.append hon).inlines.append (inlines_chain hcs)

theorem lifts_clauseFragments (hadmits : d.policy.admits d.policy.tablePrefix = true) :
    ∀ clauses : List Clause, clausesRawFree d.policy.admits clauses = true →
      Lifts ChainsInline (d.clauseFragments clauses) (d.clauseFragments (clausesInlined clauses))
  | [], _ => .ok .nil
  | ⟨connective, condition⟩ :: clauses, h => by
    simp only [clausesRawFree, Bool.and_eq_true] at h
    refine (lifts_condition hadmits condition h.1).bind fun f g hfg => ?_
    exact (lifts_clauseFragments hadmits clauses h.2).bind fun cs cs' hcs => .ok (.cons ⟨rfl, hfg⟩ hcs)

theorem lifts_condition (hadmits : d.policy.admits d.policy.tablePrefix = true) :
    ∀ c : Condition, c.isRawFree d.policy.admits = true →
      Lifts Inlines (d.condition c) (d.condition c.inlined)
  | .compare column op operand, h => by
    simp only [Condition.isRawFree, Bool.and_eq_true] at h
    exact lifts_compareOrTest hadmits h.1 op h.2
  | .compareColumns first op second, h => by
    simp only [Condition.isRawFree, Bool.and_eq_true] at h
    refine (lifts_operator op).bind ?_
    rintro word _ ⟨rfl, hword⟩
    have hfirst := Policy.spelled_column hadmits h.1
    have hsecond := Policy.spelled_column hadmits h.2
    exact .ok ((((hfirst.append_calm (by decide)).append hword).append_calm (by decide)).append hsecond)
  | .among column operands negated, h => by
    simp only [Condition.isRawFree, Bool.and_eq_true] at h
    exact .ok (inlines_among hadmits h.1 h.2 negated)
  | .isNull column negated, h => by
    have htest : Spelled (if negated then " is not null" else " is null") := by
      split_ifs <;> exact spelled_of_isCalm (by decide)
    exact .ok ((Policy.spelled_column hadmits h).append htest)
  | .between column low high negated, h => by
    simp only [Condition.isRawFree, Bool.and_eq_true] at h
    exact .ok (inlines_between hadmits h.1.1 h.1.2 h.2 negated)
  | .group clauses, h => lifts_group (lifts_clauseFragments hadmits clauses h)
  | .raw sql bindings, h => by simp [Condition.isRawFree] at h
  | .existsRow query negated, h => by
    have hkeyword : Spelled (negatable negated "exists" ++ " (") := by
      cases negated <;> exact spelled_of_isCalm (by decide)
    have hclose : Spelled ")" := spelled_of_isCalm (by decide)
    exact (lifts_select hadmits query h).bind fun f g hfg => .ok ((hkeyword.inlines.append hfg).append hclose)
  | .amongRows column query negated, h => by
    simp only [Condition.isRawFree, Bool.and_eq_true] at h
    have hkeyword : Spelled (negatable negated "in") := by
      cases negated <;> exact spelled_of_isCalm (by decide)
    have hleft : Spelled (d.policy.column column ++ " " ++ negatable negated "in" ++ " (") :=
      spelled_columnWord hadmits h.1 hkeyword (by decide)
    have hclose : Spelled ")" := spelled_of_isCalm (by decide)
    exact (lifts_select hadmits query h.2).bind fun f g hfg => .ok ((hleft.inlines.append hfg).append hclose)
  | .comparePart part column op operand, h => by
    simp only [Condition.isRawFree, Bool.and_eq_true] at h
    exact lifts_comparePart hadmits h.1 part op h.2

theorem lifts_branchFragments (hadmits : d.policy.admits d.policy.tablePrefix = true) :
    ∀ branches : List Branch, branchesRawFree d.policy.admits branches = true →
      Lifts (List.Forall₂ Inlines) (d.branchFragments branches) (d.branchFragments (branchesInlined branches))
  | [], _ => .ok .nil
  | ⟨query, keepAll⟩ :: branches, h => by
    simp only [branchesRawFree, Bool.and_eq_true] at h
    have hkeyword : Spelled (if keepAll then "union all " else "union ") := by
      split_ifs <;> exact spelled_of_isCalm (by decide)
    refine (lifts_select hadmits query h.1).bind fun f g hfg => ?_
    exact (lifts_branchFragments hadmits branches h.2).bind fun fs fs' hfs =>
      .ok (.cons (hkeyword.inlines.append (inlines_derived hfg)) hfs)
end

end Dialect

end WarehouseSql
