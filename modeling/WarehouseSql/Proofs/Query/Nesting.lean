import WarehouseSql.Proofs.Name.Nesting
import WarehouseSql.Proofs.Query.Selecting

/-!
Compiled queries and the parentheses in them, under a case-sensitive policy.  A query without raw SQL closes all that it
opens (`Dialect.nests_select`), so it shows nothing outside of the parentheses that it stands in; and a condition without
raw SQL shows no connective, but for the `and` of a range, and has no white space at its ends
(`Dialect.separable_clauseFragments`).  **A chain of such conditions is cut into them** (`Dialect.conditions_chain`).
-/

namespace WarehouseSql

open LexState Template

/-! ### what compiles -/

/-- What compiles has a property. -/
def Compiled.Yields {α : Type} (P : α → Prop) (x : Compiled α) : Prop := ∀ a, x = .ok a → P a

namespace Compiled.Yields

variable {α β : Type} {P : α → Prop} {Q : β → Prop} {x : Compiled α}

lemma ok {a : α} (h : P a) : Yields P (.ok a) := by
  rintro _ ⟨⟩
  exact h

lemma error (e : GrammarError) : Yields P (.error e) := by
  rintro _ ⟨⟩

lemma bind {f : α → Compiled β} (h : Yields P x) (hf : ∀ a, P a → Yields Q (f a)) : Yields Q (x >>= f) := by
  intro b hb
  obtain ⟨a, ha, hb⟩ := Compiled.bind_eq_ok.1 hb
  exact hf a (h a ha) b hb

lemma mapM {ι : Type} {f : ι → Compiled α} {items : List ι} (h : ∀ i ∈ items, Yields P (f i)) :
    Yields (fun as => ∀ a ∈ as, P a) (items.mapM f) := by
  induction items with
  | nil => exact ok (List.forall_mem_nil _)
  | cons i items ih =>
    obtain ⟨hi, hrest⟩ := List.forall_mem_cons.1 h
    rw [List.mapM_cons]
    exact hi.bind fun a ha => (ih hrest).bind fun as has => ok (List.forall_mem_cons.2 ⟨ha, has⟩)

end Compiled.Yields

open Compiled (Yields)

/-! ### texts of conditions -/

/-- A text that nests and can be told from its neighbours in a chain of conditions. -/
def Separable (sql : String) : Prop := ∃ shown, Outlines 0 0 sql shown ∧ IsPiece (sql.toList.zip shown)

lemma Separable.nests {sql : String} (h : Separable sql) : Nests 0 0 sql := by
  obtain ⟨shown, houtlines, -⟩ := h
  exact ⟨shown, houtlines⟩

lemma Outlines.separable {sql : String} {shown : List Char} (h : Outlines 0 0 sql shown)
    (hpasses : Passes (sql.toList.zip shown)) (hedged : Edged sql) : Separable sql := by
  refine ⟨shown, h, hpasses, ?_⟩
  rw [List.map_fst_zip h.length_eq.le]
  exact Edged.isTrimmed_iff.2 hedged

lemma Frames.separable {sql : String} (h : Frames 0 0 sql) (hedged : Edged sql) : Separable sql := by
  obtain ⟨shown, houtlines, hquiet⟩ := h
  exact houtlines.separable (hquiet.cutAtConnectives houtlines.length_eq false) hedged

namespace Dialect

variable {d : Dialect}

lemma yields_operator (text : String) : Yields (Frames 0 0) (operator text) := by
  intro word hword
  simp only [operator] at hword
  split_ifs at hword with hmem
  obtain rfl := Except.ok.inj hword
  have hoperators : ∀ op ∈ operators, IsStep 0 0 op ∧ Quiet (outerChars 0 op.toList) := by decide
  obtain ⟨hstep, hquiet⟩ := hoperators _ (List.contains_iff_mem.1 hmem)
  exact .word hstep hquiet

lemma frames_space : Frames 0 0 " " := .word (by decide) (by decide)

/-! ### conditions without queries inside -/

variable (hcase : d.policy.caseSensitive = true) {column : Reference}
  (hcolumn : column.isName d.policy.admits = true)

include hcase hcolumn

lemma separable_test {test : String} (htest : test = "is null" ∨ test = "is not null") :
    Separable (d.policy.column column ++ " " ++ test) := by
  have hframes : Frames 0 0 test := by
    rcases htest with rfl | rfl <;> exact .word (by decide) (by decide)
  have hends : Ends test := by
    rcases htest with rfl | rfl <;> decide
  refine Frames.separable (((Policy.frames_column hcase hcolumn).append frames_space).append hframes)
    ⟨?_, hends.append _⟩
  exact ((Policy.edged_column hcase hcolumn).begins.append _).append _

lemma separable_compare (op : String) {o : Operand} (ho : o.isValue = true) :
    Yields (fun f => Separable f.sql) (d.compare column op o) := by
  cases o with
  | raw sql => cases ho
  | value v =>
    refine (yields_operator op).bind fun word hword => .ok ?_
    have hframes : Frames 0 0 (d.policy.column column ++ " " ++ word ++ " " ++ "?") :=
      ((((Policy.frames_column hcase hcolumn).append frames_space).append hword).append frames_space).append
        (.placeholder v 0)
    refine hframes.separable ⟨?_, Ends.append _ (by decide)⟩
    exact ((((Policy.edged_column hcase hcolumn).begins.append _).append _).append _).append _

lemma separable_compareOrTest (op : String) {o : Operand} (ho : o.isValue = true) :
    Yields (fun f => Separable f.sql) (d.compareOrTest column op o) := by
  refine (yields_operator op).bind fun word _ => ?_
  split
  · next test htest =>
    refine .ok (separable_test hcase hcolumn ?_)
    unfold nullTest? at htest
    split at htest
    · split_ifs at htest
      · exact .inl (Option.some.inj htest).symm
      · exact .inr (Option.some.inj htest).symm
    · cases htest
  · exact separable_compare hcase hcolumn op ho

lemma separable_between {low high : Operand} (hlow : low.isValue = true) (hhigh : high.isValue = true)
    (negated : Bool) : Separable (d.between column low high negated).sql := by
  cases low with
  | raw sql => cases hlow
  | value v =>
    cases high with
    | raw sql => cases hhigh
    | value w =>
      have hsql : (d.between column (.value v) (.value w) negated).sql =
          d.policy.column column ++ rangeText negated := by
        have hrange : rangeText negated =
            " " ++ (negatable negated "between" ++ (" " ++ ("?" ++ (" and " ++ "?")))) := by
          cases negated <;> decide
        rw [hrange]
        simp [between, Fragment.operand, String.append_assoc]
      have hrange : Outlines 0 0 (rangeText negated) (outerChars 0 (rangeText negated).toList) := by
        have hkeyword : Outlines 0 0 (if negated then " not between " else " between ") _ :=
          .of_isCalm (by cases negated <;> decide) (by cases negated <;> decide)
        have hand : Outlines 0 0 " and " _ := .of_isCalm (by decide) (by decide)
        have hwhole := ((hkeyword.append (.placeholder v 0)).append hand).append (.placeholder w 0)
        cases negated <;> exact hwhole
      obtain ⟨shown, houtlines, hquiet⟩ := Policy.frames_column hcase hcolumn
      have hcolumnEdged := Policy.edged_column hcase hcolumn
      rw [hsql]
      refine (houtlines.append hrange).separable ?_ ⟨hcolumnEdged.begins.append _, .append _ ?_⟩
      · rw [houtlines.zip_append]
        -- the `and` of the range is no connective
        exact passes_range hquiet houtlines.length_eq negated
      · cases negated <;> decide

omit hcase hcolumn in
lemma separable_enclosed {head inner : String} (hhead : Frames 0 1 head) (hbegins : Begins head)
    (hinner : Nests 0 0 inner) : Separable (head ++ inner ++ ")") := by
  have hclose : Frames 1 0 ")" := .word (by decide) (by decide)
  have hframes : Frames 0 0 (head ++ inner ++ ")") := (hhead.append hinner.inside).append hclose
  exact hframes.separable ⟨(hbegins.append _).append _, Ends.append _ (by decide)⟩

lemma separable_choice (negated : Bool) {inner : String} (hinner : Nests 0 0 inner) :
    Separable (d.policy.column column ++ " " ++ negatable negated "in" ++ " (" ++ inner ++ ")") := by
  have hkeyword : Frames 0 0 (negatable negated "in") := by
    cases negated <;> exact .word (by decide) (by decide)
  have hopen : Frames 0 1 " (" := .word (by decide) (by decide)
  have hhead : Frames 0 1 (d.policy.column column ++ " " ++ negatable negated "in" ++ " (") :=
    (((Policy.frames_column hcase hcolumn).append frames_space).append hkeyword).append hopen
  refine separable_enclosed hhead ?_ hinner
  exact (((Policy.edged_column hcase hcolumn).begins.append _).append _).append _

omit hcase hcolumn in
lemma nests_operands {os : List Operand} (h : os.all Operand.isValue = true) :
    Nests 0 0 (Fragment.operands os).sql := by
  refine .join (.word (by decide)) fun f hf => ?_
  obtain ⟨o, ho, rfl⟩ := List.mem_map.1 hf
  cases o with
  | raw sql => cases List.all_eq_true.1 h _ ho
  | value v => exact (Frames.placeholder v 0).nests

lemma separable_among {os : List Operand} (hos : os.all Operand.isValue = true) (negated : Bool) :
    Separable (d.among column os negated).sql := by
  unfold among
  split_ifs
  · exact Frames.separable (.word (by decide) (by decide)) ⟨by decide, by decide⟩
  · exact Frames.separable (.word (by decide) (by decide)) ⟨by decide, by decide⟩
  · exact separable_choice hcase hcolumn negated (nests_operands hos)

lemma separable_comparePart (part : DatePart) (op : String) {o : Operand} (ho : o.isValue = true) :
    Yields (fun f => Separable f.sql) (d.comparePart part column op o) := by
  cases o with
  | raw sql => cases ho
  | value v =>
    refine (yields_operator op).bind fun word hword => .ok ?_
    have hopen : Frames 0 1 "strftime(" := .word (by decide) (by decide)
    have hcomma : Frames 1 1 ", " := .word (by decide) (by decide)
    have hclose : Frames 1 0 ") " := .word (by decide) (by decide)
    have hcast : Frames 0 1 " cast(" := .word (by decide) (by decide)
    have htext : Frames 1 0 " as text)" := .word (by decide) (by decide)
    have hformat : Frames 0 1 ("strftime('" ++ part.format ++ "', ") := by
      rw [quoted_format]
      exact (hopen.append (.quoteLiteral _ 1)).append hcomma
    have hpart : Frames 0 0 ("strftime('" ++ part.format ++ "', " ++ d.policy.column column ++ ") ") :=
      (hformat.append (Policy.frames_column hcase hcolumn).nests.inside).append hclose
    have hframes : Frames 0 0
        ("strftime('" ++ part.format ++ "', " ++ d.policy.column column ++ ") " ++ word ++ " cast(" ++ "?" ++ " as text)") :=
      (((hpart.append hword).append hcast).append (.placeholder v 1)).append htext
    have hbegins : Begins "strftime('" := by decide
    refine hframes.separable ⟨?_, Ends.append _ (by decide)⟩
    simp only [String.append_assoc]
    exact hbegins.append _

/-! ### chains of conditions -/

omit hcase hcolumn

/-- Conditions with the connective of each in front. -/
def links : List (Connective × Fragment) → String
  | [] => ""
  | next :: rest => " " ++ next.1.keyword ++ " " ++ (next.2.sql ++ links rest)

lemma sql_chain (first : Connective × Fragment) (rest : List (Connective × Fragment)) :
    (chain (first :: rest)).sql = first.2.sql ++ links rest := by
  have hfold : ∀ (rest : List (Connective × Fragment)) (sofar : Fragment),
      (rest.foldl (fun sofar next => sofar ++ Fragment.text (" " ++ next.1.keyword ++ " ") ++ next.2) sofar).sql =
        sofar.sql ++ links rest := by
    intro rest
    induction rest with
    | nil => exact fun sofar => by simp [links]
    | cons next rest ih =>
      intro sofar
      rw [List.foldl_cons, ih]
      simp [links, String.append_assoc]
  exact hfold rest first.2

lemma nests_links {rest : List (Connective × Fragment)} (h : ∀ next ∈ rest, Nests 0 0 next.2.sql) :
    Nests 0 0 (links rest) := by
  induction rest with
  | nil => exact ⟨_, .empty 0⟩
  | cons next rest ih =>
    obtain ⟨hnext, hrest⟩ := List.forall_mem_cons.1 h
    have hkeyword : Nests 0 0 next.1.keyword := by
      cases next.1 <;> exact .word (by decide)
    exact ((frames_space.nests.append hkeyword).append frames_space.nests).append (hnext.append (ih hrest))

lemma nests_chain {cs : List (Connective × Fragment)} (h : ∀ c ∈ cs, Nests 0 0 c.2.sql) : Nests 0 0 (chain cs).sql := by
  cases cs with
  | nil => exact ⟨_, .empty 0⟩
  | cons first rest =>
    obtain ⟨hfirst, hrest⟩ := List.forall_mem_cons.1 h
    rw [sql_chain]
    exact hfirst.append (nests_links hrest)

/-- What is shown of conditions with their connectives is a chain of pieces. -/
lemma outlines_links {rest : List (Connective × Fragment)} (h : ∀ next ∈ rest, Separable next.2.sql) :
    ∃ shown pieces, Outlines 0 0 (links rest) shown ∧ (links rest).toList.zip shown = chained pieces ∧
      (∀ piece ∈ pieces, IsPiece piece.2) ∧
        (pieces.map fun piece => (piece.1, String.ofList (piece.2.map Prod.fst))) =
          rest.map fun next => (next.1, next.2.sql) := by
  induction rest with
  | nil => exact ⟨[], [], .empty 0, rfl, List.forall_mem_nil _, rfl⟩
  | cons next rest ih =>
    obtain ⟨⟨shown, hnext, hpiece⟩, hrest⟩ := List.forall_mem_cons.1 h
    obtain ⟨shownRest, pieces, houtlines, hzip, hpieces, hmap⟩ := ih hrest
    have hspace : Outlines 0 0 " " ['\''] := .of_isCalm (by decide) (by decide)
    have hkeyword : Outlines 0 0 next.1.keyword next.1.keyword.toList := by
      cases next.1 <;> exact .of_isCalm (by decide) (by decide)
    have hkeywordZip : next.1.keyword.toList.zip next.1.keyword.toList = shownKeyword next.1 := by
      cases next.1 <;> rfl
    have hhead : Outlines 0 0 (" " ++ next.1.keyword ++ " ") (['\''] ++ next.1.keyword.toList ++ ['\'']) :=
      (hspace.append hkeyword).append hspace
    refine ⟨_, (next.1, next.2.sql.toList.zip shown) :: pieces, hhead.append (hnext.append houtlines), ?_,
      List.forall_mem_cons.2 ⟨hpiece, hpieces⟩, ?_⟩
    · rw [links, hhead.zip_append, hnext.zip_append, hzip, (hspace.append hkeyword).zip_append, hspace.zip_append,
        hkeywordZip]
      simp [chained, gap]
    · rw [List.map_cons, List.map_cons, hmap, List.map_fst_zip hnext.length_eq.le, String.ofList_toList]

/-- **A chain of conditions is cut into them.** -/
theorem conditions_chain {first : Connective × Fragment} {rest : List (Connective × Fragment)}
    (hfirst : Separable first.2.sql) (hrest : ∀ next ∈ rest, Separable next.2.sql) :
    Template.conditions (chain (first :: rest)).sql = (first.2.sql, rest.map fun next => (next.1, next.2.sql)) := by
  obtain ⟨shown, houtlines, hpiece⟩ := hfirst
  obtain ⟨shownRest, pieces, hlinks, hzip, hpieces, hmap⟩ := outlines_links hrest
  have hwhole := houtlines.append hlinks
  rw [← sql_chain] at hwhole
  have htext : (chain (first :: rest)).sql.toList.zip (outerText (chain (first :: rest)).sql).toList =
      first.2.sql.toList.zip shown ++ chained pieces := by
    rw [hwhole.toList_outerText, sql_chain, houtlines.zip_append, hzip]
  rw [conditions_chained htext hpiece hpieces, hmap, List.map_fst_zip houtlines.length_eq.le, String.ofList_toList]

/-! ### parts of queries -/

lemma nests_optionalPart {α : Type} {write : α → String} {part : Option α} (h : ∀ a ∈ part, Nests 0 0 (write a)) :
    Nests 0 0 (optionalPart write part).sql := by
  cases part with
  | none => exact ⟨_, .empty 0⟩
  | some a => exact h a rfl

lemma nests_listedPart {α : Type} {write : List α → String} {items : List α} (h : Nests 0 0 (write items)) :
    Nests 0 0 (listedPart write items).sql := by
  unfold listedPart
  split_ifs
  · exact ⟨_, .empty 0⟩
  · exact h

lemma nests_derived {f : Fragment} (h : Nests 0 0 f.sql) : Nests 0 0 (derived f).sql := by
  have hopen : Nests 0 1 "select * from (" := .word (by decide)
  exact (hopen.append h.succ).append (.word (by decide))

include hcase

lemma spellsClauses_nests : d.SpellsClauses (Nests 0 0) where
  append := .append
  word text htext := ((Policy.spells_frames hcase).word text htext).nests
  selector keys hcolumn := by
    have hopen : Nests 0 1 "get_path(" := .word (by decide)
    have hcomma : Nests 1 1 ", " := .word (by decide)
    have hkeys : Nests 1 1 (Text.quoteLiteral keys) := (Frames.quoteLiteral keys 1).nests
    exact (((hopen.append hcolumn.succ).append hcomma).append hkeys).append (.word (by decide))
  identifier _ := (Policy.frames_identifier hcase _).nests
  keyword := by
    have hwords : ∀ text ∈ clauseWords, IsStep 0 0 text := by decide
    exact fun text htext => .word (hwords text htext)
  integer n := by
    have htext : integerText n = String.ofList (Decimal.digits n) := by
      simp [integerText, Binary64.signed]
    rw [htext]
    refine .of_test (p := isDecimalChar) (by decide) (List.all_eq_true.2 fun c hc => ?_)
    rw [String.toList_ofList] at hc
    exact isDecimalChar_of_mem_digits hc

lemma separable_groupCondition {c : GroupCondition} (h : c.isRawFree d.policy.admits = true) :
    Yields (fun f => Separable f.sql) (d.groupCondition c) := by
  cases c with
  | compare column op o =>
    simp only [GroupCondition.isRawFree, Bool.and_eq_true] at h
    exact separable_compare hcase h.1 op h.2
  | between column low high negated =>
    simp only [GroupCondition.isRawFree, Bool.and_eq_true] at h
    exact .ok (separable_between hcase h.1.1 h.1.2 h.2 negated)
  | raw sql bindings => cases h

lemma nests_havingPart {havings : List Having}
    (h : havings.all (fun h => h.condition.isRawFree d.policy.admits) = true) :
    Yields (fun f => Nests 0 0 f.sql) (d.havingPart havings) := by
  have hkeyword : Nests 0 0 "having " := .word (by decide)
  have hconditions : Yields (fun cs => ∀ c ∈ cs, Nests 0 0 c.2.sql)
      (havings.mapM fun h => do return (h.connective, ← d.groupCondition h.condition)) :=
    .mapM fun having hmem =>
      (separable_groupCondition hcase (List.all_eq_true.1 h having hmem)).bind fun f hf => .ok hf.nests
  unfold havingPart
  split_ifs
  · exact .ok ⟨_, .empty 0⟩
  · exact hconditions.bind fun cs hcs => .ok (hkeyword.append (nests_chain hcs))

lemma nests_aggregate {distinct : Distinct} (hdistinct : distinct.isNamed d.policy.admits = true) {a : Aggregate}
    (ha : a.columns.all (·.isName d.policy.admits) = true) : Yields (Nests 0 0) (d.aggregate distinct a) := by
  simp only [aggregate]
  split_ifs with hname
  · have hfunction : Nests 0 0 (Text.trim a.function) := by
      rw [isFunctionName, Bool.and_eq_true] at hname
      exact .of_test (by decide) hname.2
    have hselect : Nests 0 0 "select " := .word (by decide)
    have hopen : Nests 0 1 "(" := .word (by decide)
    have hlabel : Nests 1 0 ") as \"aggregate\"" := by
      have hquoted : ") as \"aggregate\"" = ") as " ++ Text.quoteIdentifier "aggregate" := by decide +kernel
      have has : Nests 1 0 ") as " := .word (by decide)
      rw [hquoted]
      exact has.append (Frames.quoteIdentifier _ 0).nests
    have hrange : Nests 0 0 (d.aggregateRange distinct a.columns) :=
      (spellsClauses_nests hcase).aggregateRange (Policy.admits_of_caseSensitive hcase _) hdistinct ha
    exact .ok ((((hselect.append hfunction).append hopen).append hrange.succ).append hlabel)
  · exact .error _

/-! ### assembling -/

omit hcase in
structure PartsNest (p : Parts) : Prop where
  aggregate : ∀ head ∈ p.aggregate, Nests 0 0 head
  joins : Nests 0 0 p.joins.sql
  clauses : Nests 0 0 p.clauses.sql
  havings : Nests 0 0 p.havings.sql
  lock : Nests 0 0 p.lock.sql
  branches : ∀ f ∈ p.branches, Nests 0 0 f.sql

variable {q : Query} (hq : q.RawFree d.policy.admits) {p : Parts} (hp : PartsNest p)

include hq hp

lemma nests_singleSelect {head : String} (hhead : Nests 0 0 head) : Nests 0 0 (d.singleSelect q p head).sql := by
  have hclauses : d.SpellsClauses (Nests 0 0) := spellsClauses_nests hcase
  have hadmits : d.policy.admits d.policy.tablePrefix = true := Policy.admits_of_caseSensitive hcase _
  have hsource : Nests 0 0 (optionalPart (fun source => "from " ++ d.policy.table source) q.source).sql :=
    nests_optionalPart fun source hsource =>
      hclauses.sourceClause hadmits ((Option.all_eq_true _ _).1 hq.source source hsource)
  have hgroups : Nests 0 0 (listedPart (fun groups => "group by " ++ d.policy.columns groups) q.groups).sql :=
    nests_listedPart (hclauses.groupClause hadmits hq.groups)
  have horders : Nests 0 0 (listedPart d.orderClause q.orders).sql :=
    nests_listedPart (hclauses.orderClause hadmits hq.orders)
  have hlimit : Nests 0 0 (optionalPart (countClause "limit") q.limit).sql :=
    nests_optionalPart fun count _ => hclauses.countClause (by decide) count
  have hoffset : Nests 0 0 (optionalPart (countClause "offset") q.offset).sql :=
    nests_optionalPart fun count _ => hclauses.countClause (by decide) count
  refine .sentence fun f hf => ?_
  simp only [List.mem_cons, List.not_mem_nil, or_false] at hf
  rcases hf with rfl | rfl | rfl | rfl | rfl | rfl | rfl | rfl | rfl | rfl
  exacts [hhead, hsource, hp.joins, hp.clauses, hgroups, hp.havings, horders, hlimit, hoffset, hp.lock]

lemma nests_unitedSelect {head : String} (hhead : Nests 0 0 head) : Nests 0 0 (d.unitedSelect q p head).sql := by
  have hclauses : d.SpellsClauses (Nests 0 0) := spellsClauses_nests hcase
  have hfirst := nests_singleSelect hcase hq hp hhead
  have hcount : ∀ keyword ∈ clauseWords, ∀ count : Option UInt64,
      ∀ f ∈ (count.map fun n => Fragment.text (countClause keyword n)).toList, Nests 0 0 f.sql := by
    intro keyword hkeyword count
    cases count with
    | none => exact List.forall_mem_nil _
    | some n => exact List.forall_mem_singleton.2 (hclauses.countClause hkeyword n)
  have horders : ∀ f ∈ if q.unionOrders.isEmpty then [] else [Fragment.text (d.orderClause q.unionOrders)],
      Nests 0 0 f.sql := by
    split_ifs
    · exact List.forall_mem_nil _
    · exact List.forall_mem_singleton.2
        (hclauses.orderClause (Policy.admits_of_caseSensitive hcase _) hq.unionOrders)
  have hderived : ∀ f ∈ [derived (d.singleSelect q p head)], Nests 0 0 f.sql :=
    List.forall_mem_singleton.2 (nests_derived hfirst)
  simp only [unitedSelect]
  by_cases hempty : p.branches.isEmpty = true
  · rw [if_pos hempty]
    exact hfirst
  · rw [if_neg hempty]
    refine .join (.word (by decide)) ?_
    refine List.forall_mem_append.2 ⟨List.forall_mem_append.2 ⟨List.forall_mem_append.2
      ⟨List.forall_mem_append.2 ⟨hderived, hp.branches⟩, horders⟩, ?_⟩, ?_⟩
    · exact hcount "limit" (by decide) q.unionLimit
    · exact hcount "offset" (by decide) q.unionOffset

lemma nests_assemble : Nests 0 0 (d.assemble q p).sql := by
  have hlist : Nests 0 0 (d.columnList q) :=
    (spellsClauses_nests hcase).columnList (Policy.admits_of_caseSensitive hcase _) hq.columns
  have hunited := nests_unitedSelect hcase hq hp hlist
  unfold assemble
  split
  · exact hunited
  · next head haggregate =>
    have hhead : Nests 0 0 head := hp.aggregate head haggregate
    split_ifs
    · exact nests_unitedSelect hcase hq hp hhead
    · have hfrom : Nests 0 1 " from (" := .word (by decide)
      have has : Nests 1 0 ") as " := .word (by decide)
      have hname : (Reference.name "temp_table").isName d.policy.admits = true := Policy.admits_of_caseSensitive hcase _
      exact ((hhead.append hfrom).append hunited.succ).append (has.append (Policy.frames_table hcase hname).nests)

/-! ### compiling -/

omit hp in
lemma nests_select_of_parts (hjoins : Yields (fun fs => ∀ f ∈ fs, Nests 0 0 f.sql) (d.joinFragments q.joins))
    (hclauses : Yields (fun cs => ∀ c ∈ cs, Separable c.2.sql) (d.clauseFragments q.clauses))
    (hbranches : Yields (fun fs => ∀ f ∈ fs, Nests 0 0 f.sql) (d.branchFragments q.branches)) :
    Yields (fun f => Nests 0 0 f.sql) (d.select q) := by
  have haggregate : Yields (fun a => ∀ head ∈ a, Nests 0 0 head) (q.aggregate.mapM (d.aggregate q.distinct)) := by
    cases ha : q.aggregate with
    | none => exact .ok (by simp)
    | some a =>
      have hcolumns : a.columns.all (·.isName d.policy.admits) = true := by simpa [ha] using hq.aggregate
      exact (nests_aggregate hcase hq.distinct hcolumns).bind fun head hhead => .ok (by simpa using hhead)
  have hlock : Yields (Nests 0 0) (q.lock.elim (pure "") d.lock) := by
    cases q.lock with
    | none => exact .ok ⟨_, .empty 0⟩
    | some l =>
      show Yields (Nests 0 0) (d.lock l)
      unfold lock
      split
      · exact .error _
      · exact .ok ⟨_, .empty 0⟩
  have hwhere : ∀ cs : List (Connective × Fragment), (∀ c ∈ cs, Separable c.2.sql) →
      Nests 0 0 (if cs.isEmpty then Fragment.empty else Fragment.text "where " ++ chain cs).sql := by
    intro cs hcs
    have hkeyword : Nests 0 0 "where " := .word (by decide)
    split_ifs
    · exact ⟨_, .empty 0⟩
    · exact hkeyword.append (nests_chain fun c hc => (hcs c hc).nests)
  rw [select_eq]
  refine haggregate.bind fun aggregate ha => hjoins.bind fun joins hj => hclauses.bind fun conditions hc => ?_
  refine (nests_havingPart hcase hq.havings).bind fun havings hh => hlock.bind fun lock hl => ?_
  refine hbranches.bind fun branches hb => .ok (nests_assemble hcase hq ?_)
  exact ⟨ha, .join (.word (by decide)) hj, hwhere conditions hc, hh, hl, hb⟩

omit hcase hq hp

lemma separable_group {clauses : List Clause}
    (h : Yields (fun cs => ∀ c ∈ cs, Separable c.2.sql) (d.clauseFragments clauses)) :
    Yields (fun f => Separable f.sql) (d.condition (.group clauses)) := by
  have hopen : Frames 0 1 "(" := .word (by decide) (by decide)
  simp only [condition]
  split_ifs
  · exact .error _
  · exact h.bind fun cs hcs => .ok (separable_enclosed hopen (by decide) (nests_chain fun c hc => (hcs c hc).nests))

mutual
/-- **Queries nest**, with all that is inside them. -/
theorem nests_select (hcase : d.policy.caseSensitive = true) :
    ∀ q : Query, q.isRawFree d.policy.admits = true → Yields (fun f => Nests 0 0 f.sql) (d.select q)
  | ⟨source, columns, distinct, aggregate, joins, clauses, groups, havings, orders, limit, offset, lock, branches,
      unionOrders, unionLimit, unionOffset⟩, h => by
    have hq := Query.isRawFree_iff.1 h
    exact nests_select_of_parts hcase hq (nests_joinFragments hcase joins hq.joins)
      (separable_clauseFragments hcase clauses hq.clauses) (nests_branchFragments hcase branches hq.branches)

theorem nests_joinFragments (hcase : d.policy.caseSensitive = true) :
    ∀ joins : List Join, joinsRawFree d.policy.admits joins = true →
      Yields (fun fs => ∀ f ∈ fs, Nests 0 0 f.sql) (d.joinFragments joins)
  | [], _ => .ok (List.forall_mem_nil _)
  | ⟨kind, table, clauses⟩ :: joins, h => by
    simp only [joinsRawFree, Bool.and_eq_true] at h
    obtain ⟨⟨htable, hclauses⟩, hjoins⟩ := h
    have hkind : Nests 0 0 kind.keyword := by
      cases kind <;> exact .word (by decide)
    have hjoin : Nests 0 0 " join " := .word (by decide)
    have hon : Nests 0 0 " on " := .word (by decide)
    have hjoined : Nests 0 0 (kind.keyword ++ " join " ++ d.policy.table table) :=
      (hkind.append hjoin).append (Policy.frames_table hcase htable).nests
    refine (separable_clauseFragments hcase clauses hclauses).bind fun cs hcs => ?_
    refine (nests_joinFragments hcase joins hjoins).bind fun fs hfs => .ok (List.forall_mem_cons.2 ⟨?_, hfs⟩)
    split_ifs
    · exact hjoined
    · exact (hjoined.append hon).append (nests_chain fun c hc => (hcs c hc).nests)

/-- **Conditions can be told from their neighbours.** -/
theorem separable_clauseFragments (hcase : d.policy.caseSensitive = true) :
    ∀ clauses : List Clause, clausesRawFree d.policy.admits clauses = true →
      Yields (fun cs => ∀ c ∈ cs, Separable c.2.sql) (d.clauseFragments clauses)
  | [], _ => .ok (List.forall_mem_nil _)
  | ⟨connective, condition⟩ :: clauses, h => by
    simp only [clausesRawFree, Bool.and_eq_true] at h
    refine (separable_condition hcase condition h.1).bind fun f hf => ?_
    exact (separable_clauseFragments hcase clauses h.2).bind fun cs hcs => .ok (List.forall_mem_cons.2 ⟨hf, hcs⟩)

theorem separable_condition (hcase : d.policy.caseSensitive = true) :
    ∀ c : Condition, c.isRawFree d.policy.admits = true → Yields (fun f => Separable f.sql) (d.condition c)
  | .compare column op operand, h => by
    simp only [Condition.isRawFree, Bool.and_eq_true] at h
    exact separable_compareOrTest hcase h.1 op h.2
  | .compareColumns first op second, h => by
    simp only [Condition.isRawFree, Bool.and_eq_true] at h
    refine (yields_operator op).bind fun word hword => .ok ?_
    have hfirst := Policy.edged_column hcase h.1
    have hsecond := Policy.edged_column hcase h.2
    have hframes : Frames 0 0 (d.policy.column first ++ " " ++ word ++ " " ++ d.policy.column second) :=
      ((((Policy.frames_column hcase h.1).append frames_space).append hword).append frames_space).append
        (Policy.frames_column hcase h.2)
    exact hframes.separable ⟨(((hfirst.begins.append _).append _).append _).append _, hsecond.ends.append _⟩
  | .among column operands negated, h => by
    simp only [Condition.isRawFree, Bool.and_eq_true] at h
    exact .ok (separable_among hcase h.1 h.2 negated)
  | .isNull column negated, h => by
    have htest : (if negated then " is not null" else " is null") =
        " " ++ if negated then "is not null" else "is null" := by
      cases negated <;> decide
    refine .ok ?_
    rw [htest, Fragment.sql_text, ← String.append_assoc]
    refine separable_test hcase h ?_
    cases negated
    · exact .inl rfl
    · exact .inr rfl
  | .between column low high negated, h => by
    simp only [Condition.isRawFree, Bool.and_eq_true] at h
    exact .ok (separable_between hcase h.1.1 h.1.2 h.2 negated)
  | .group clauses, h => separable_group (separable_clauseFragments hcase clauses h)
  | .raw sql bindings, h => by simp [Condition.isRawFree] at h
  | .existsRow query negated, h => by
    have hkeyword : Frames 0 1 (negatable negated "exists" ++ " (") := by
      cases negated <;> exact .word (by decide) (by decide)
    have hbegins : Begins (negatable negated "exists" ++ " (") := by
      cases negated <;> decide
    exact (nests_select hcase query h).bind fun f hf => .ok (separable_enclosed hkeyword hbegins hf)
  | .amongRows column query negated, h => by
    simp only [Condition.isRawFree, Bool.and_eq_true] at h
    exact (nests_select hcase query h.2).bind fun f hf => .ok (separable_choice hcase h.1 negated hf)
  | .comparePart part column op operand, h => by
    simp only [Condition.isRawFree, Bool.and_eq_true] at h
    exact separable_comparePart hcase h.1 part op h.2

theorem nests_branchFragments (hcase : d.policy.caseSensitive = true) :
    ∀ branches : List Branch, branchesRawFree d.policy.admits branches = true →
      Yields (fun fs => ∀ f ∈ fs, Nests 0 0 f.sql) (d.branchFragments branches)
  | [], _ => .ok (List.forall_mem_nil _)
  | ⟨query, keepAll⟩ :: branches, h => by
    simp only [branchesRawFree, Bool.and_eq_true] at h
    have hkeyword : Nests 0 0 (if keepAll then "union all " else "union ") := by
      split_ifs <;> exact .word (by decide)
    refine (nests_select hcase query h.1).bind fun f hf => ?_
    exact (nests_branchFragments hcase branches h.2).bind fun fs hfs =>
      .ok (List.forall_mem_cons.2 ⟨hkeyword.append (nests_derived hf), hfs⟩)
end

end Dialect

end WarehouseSql
