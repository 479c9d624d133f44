import WarehouseSql.Proofs.Name.Spelling
import WarehouseSql.Proofs.Query.RawFree

/-!
The clauses of a query, compiled with placeholders and with literals.  `Compiled.Lifts R x y` relates two compilations:
where the first succeeds, so does the second, and the results are related.  **Every clause without raw SQL inlines**:
compiled with its values written into it, it is the fragment with the literals in place of the placeholders.
-/

namespace WarehouseSql

open Fragment

/-! ### related compilations -/

/-- Where the first compilation succeeds, the second one does, and their results are related. -/
def Compiled.Lifts {α β : Type} (R : α → β → Prop) (x : Compiled α) (y : Compiled β) : Prop :=
  ∀ a, x = .ok a → ∃ b, y = .ok b ∧ R a b

namespace Compiled.Lifts

variable {α β γ δ : Type} {R : α → β → Prop} {S : γ → δ → Prop} {x : Compiled α} {y : Compiled β}

lemma ok {a : α} {b : β} (h : R a b) : Lifts R (.ok a) (.ok b) := by
  rintro _ ⟨⟩
  exact ⟨b, rfl, h⟩

lemma error (e : GrammarError) (y : Compiled β) : Lifts R (.error e) y := by
  rintro _ ⟨⟩

lemma bind {f : α → Compiled γ} {g : β → Compiled δ} (h : Lifts R x y)
    (hf : ∀ a b, R a b → Lifts S (f a) (g b)) : Lifts S (x >>= f) (y >>= g) := by
  cases hx : x with
  | error e => exact error e _
  | ok a =>
    obtain ⟨b, hy, hR⟩ := h a hx
    rw [hy]
    exact hf a b hR

lemma map {f : α → γ} {g : β → δ} (h : Lifts R x y) (hf : ∀ a b, R a b → S (f a) (g b)) :
    Lifts S (f <$> x) (g <$> y) := by
  cases hx : x with
  | error e => exact error e _
  | ok a =>
    obtain ⟨b, hy, hR⟩ := h a hx
    rw [hy]
    exact ok (hf a b hR)

lemma mapM {ι κ : Type} {f : ι → Compiled α} {g : κ → Compiled β} {k : ι → κ} {items : List ι}
    (h : ∀ i ∈ items, Lifts R (f i) (g (k i))) :
    Lifts (List.Forall₂ R) (items.mapM f) ((items.map k).mapM g) := by
  induction items with
  | nil => exact ok .nil
  | cons i items ih =>
    obtain ⟨hi, hrest⟩ := List.forall_mem_cons.1 h
    rw [List.map_cons, List.mapM_cons, List.mapM_cons]
    exact hi.bind fun a b hab => (ih hrest).bind fun as bs habs => ok (.cons hab habs)

end Compiled.Lifts

open Compiled (Lifts)

/-! ### names -/

namespace Policy

variable {policy : Policy}

lemma spelled_column (hadmits : policy.admits policy.tablePrefix = true) {r : Reference}
    (h : r.isName policy.admits = true) : Spelled (policy.column r) :=
  spells_spelled.column hadmits h

lemma spelled_table (hadmits : policy.admits policy.tablePrefix = true) {r : Reference}
    (h : r.isName policy.admits = true) : Spelled (policy.table r) :=
  spells_spelled.table hadmits h

lemma spelled_columnNames (hadmits : policy.admits policy.tablePrefix = true) {names : List String}
    (h : names.all policy.admits = true) : Spelled (policy.columnNames names) :=
  spells_spelled.columnNames hadmits h

end Policy

/-! ### operands -/

namespace Fragment

lemma inlines_operand {o : Operand} (h : o.isValue = true) : Inlines (operand o) (operand o.inlined) := by
  cases o with
  | raw sql => simp [Operand.isValue] at h
  | value v =>
    refine ⟨[.value v], ?_, ?_, ?_, rfl⟩
    · simp [operand, Token.symbols, Template.source, Symbol.source]
    · simp [operand, Operand.inlined, text, Token.symbols, Template.written, Symbol.written]
    · simp [operand, Token.value?]

lemma inlines_operands {os : List Operand} (h : os.all Operand.isValue = true) :
    Inlines (operands os) (operands (os.map Operand.inlined)) := by
  refine .join (spelled_of_isCalm (by decide)) (forall₂_inlines_map fun o ho => ?_)
  exact inlines_operand (List.all_eq_true.1 h o ho)

end Fragment

namespace Dialect

variable {d : Dialect}

/-- The texts are the same, and they are spelled alike wherever they stand. -/
def SameSpelled (a b : String) : Prop := a = b ∧ Spelled a

lemma lifts_operator (text : String) : Lifts SameSpelled (operator text) (operator text) := by
  intro word hword
  refine ⟨word, hword, rfl, ?_⟩
  simp only [operator] at hword
  split_ifs at hword with hmem
  have hcalm : operators.all (fun op => op.toList.all LexState.isCalm) = true := by decide
  obtain rfl := Except.ok.inj hword
  exact spelled_of_isCalm (List.all_eq_true.1 hcalm _ (List.contains_iff_mem.1 hmem))

lemma eq_of_operator_eq_ok {text word : String} (h : operator text = .ok word) :
    word = Text.lower (Text.trim text) := by
  simp only [operator] at h
  split_ifs at h
  exact (Except.ok.inj h).symm

lemma quoted_format (part : DatePart) :
    "strftime('" ++ part.format ++ "', " = "strftime(" ++ Text.quoteLiteral part.format ++ ", " := by
  cases part <;> decide +kernel

/-! ### conditions without queries inside -/

/-- Either a comparison becomes a test for null, and its operand stays, or its operand is written out. -/
lemma nullTest?_cases {op word : String} (hword : word = Text.lower (Text.trim op)) (o : Operand) :
    (∃ test, nullTest? word o = some test ∧ o.inlinedUnder op = o ∧ Spelled test) ∨
      (nullTest? word o = none ∧ nullTest? word (o.inlinedUnder op) = none ∧ o.inlinedUnder op = o.inlined) := by
  subst hword
  unfold Operand.inlinedUnder
  split
  · -- a null: equality becomes a test for it, and any other comparison writes it out
    split_ifs with hequals
    · left
      simp only [List.contains_eq_mem, List.mem_cons, List.not_mem_nil, or_false, decide_eq_true_eq] at hequals
      rcases hequals with h | h | h <;> rw [h]
      · exact ⟨"is null", rfl, rfl, spelled_of_isCalm (by decide)⟩
      · exact ⟨"is not null", rfl, rfl, spelled_of_isCalm (by decide)⟩
      · exact ⟨"is not null", rfl, rfl, spelled_of_isCalm (by decide)⟩
    · right
      simp only [List.contains_eq_mem, List.mem_cons, List.not_mem_nil, or_false, decide_eq_true_eq, not_or] at hequals
      exact ⟨by simp [nullTest?, hequals], rfl, rfl⟩
  · next hnull =>
    right
    cases o with
    | raw sql => exact ⟨rfl, rfl, rfl⟩
    | value v =>
      refine ⟨?_, rfl, rfl⟩
      cases v with
      | null => exact absurd rfl hnull
      | _ => rfl

variable (hadmits : d.policy.admits d.policy.tablePrefix = true) {column : Reference}
  (hcolumn : column.isName d.policy.admits = true)

include hadmits hcolumn

lemma spelled_columnWord {word gap : String} (hword : Spelled word) (hgap : gap.toList.all LexState.isCalm = true) :
    Spelled (d.policy.column column ++ " " ++ word ++ gap) := by
  have hcolumn := Policy.spelled_column hadmits hcolumn
  exact ((hcolumn.append_calm (by decide)).append hword).append_calm hgap

lemma lifts_compare (op : String) {o : Operand} (ho : o.isValue = true) :
    Lifts Inlines (d.compare column op o) (d.compare column op o.inlined) := by
  refine (lifts_operator op).bind ?_
  rintro word _ ⟨rfl, hword⟩
  have hleft : Spelled (d.policy.column column ++ " " ++ word ++ " ") :=
    spelled_columnWord hadmits hcolumn hword (by decide)
  exact .ok (hleft.inlines.append (inlines_operand ho))

lemma lifts_compareOrTest (op : String) {o : Operand} (ho : o.isValue = true) :
    Lifts Inlines (d.compareOrTest column op o) (d.compareOrTest column op (o.inlinedUnder op)) := by
  have hword : Lifts (fun a b => a = b ∧ a = Text.lower (Text.trim op)) (operator op) (operator op) :=
    fun word hword => ⟨word, hword, rfl, eq_of_operator_eq_ok hword⟩
  refine hword.bind ?_
  rintro word _ ⟨rfl, hword⟩
  rcases nullTest?_cases hword o with ⟨test, htest, hsame, hspelled⟩ | ⟨hnone, hnone', hinlined⟩
  · rw [hsame, htest]
    exact .ok (((Policy.spelled_column hadmits hcolumn).append_calm (by decide)).append hspelled)
  · rw [hnone, hnone', hinlined]
    exact lifts_compare hadmits hcolumn op ho

lemma inlines_between {low high : Operand} (hlow : low.isValue = true) (hhigh : high.isValue = true)
    (negated : Bool) :
    Inlines (d.between column low high negated) (d.between column low.inlined high.inlined negated) := by
  have hkeyword : Spelled (negatable negated "between") := by
    cases negated <;> exact spelled_of_isCalm (by decide)
  have hleft : Spelled (d.policy.column column ++ " " ++ negatable negated "between" ++ " ") :=
    spelled_columnWord hadmits hcolumn hkeyword (by decide)
  have hand : Spelled " and " := spelled_of_isCalm (by decide)
  exact ((hleft.inlines.append (inlines_operand hlow)).append hand).append (inlines_operand hhigh)

lemma inlines_among {os : List Operand} (hos : os.all Operand.isValue = true) (negated : Bool) :
    Inlines (d.among column os negated) (d.among column (os.map Operand.inlined) negated) := by
  rw [among, among, List.isEmpty_map]
  split_ifs
  · exact spelled_of_isCalm (by decide)
  · exact spelled_of_isCalm (by decide)
  · have hkeyword : Spelled (negatable negated "in") := by
      cases negated <;> exact spelled_of_isCalm (by decide)
    have hleft : Spelled (d.policy.column column ++ " " ++ negatable negated "in" ++ " (") :=
      spelled_columnWord hadmits hcolumn hkeyword (by decide)
    have hclose : Spelled ")" := spelled_of_isCalm (by decide)
    exact (hleft.inlines.append (inlines_operands hos)).append hclose

lemma lifts_comparePart (part : DatePart) (op : String) {o : Operand} (ho : o.isValue = true) :
    Lifts Inlines (d.comparePart part column op o) (d.comparePart part column op o.inlined) := by
  refine (lifts_operator op).bind ?_
  rintro word _ ⟨rfl, hword⟩
  have hformat : Spelled ("strftime('" ++ part.format ++ "', ") := by
    rw [quoted_format]
    have hopen : Spelled "strftime(" := spelled_of_isCalm (by decide)
    exact (hopen.append (spelled_quoteLiteral _)).append_calm (by decide)
  have hpart : Spelled ("strftime('" ++ part.format ++ "', " ++ d.policy.column column ++ ") ") :=
    (hformat.append (Policy.spelled_column hadmits hcolumn)).append_calm (by decide)
  have hcast : Spelled ("strftime('" ++ part.format ++ "', " ++ d.policy.column column ++ ") " ++ word ++ " cast(") :=
    (hpart.append hword).append_calm (by decide)
  have hclose : Spelled " as text)" := spelled_of_isCalm (by decide)
  exact .ok ((hcast.inlines.append (inlines_operand ho)).append hclose)

omit hcolumn in
lemma lifts_groupCondition {c : GroupCondition} (h : c.isRawFree d.policy.admits = true) :
    Lifts Inlines (d.groupCondition c) (d.groupCondition c.inlined) := by
  cases c with
  | compare column op o =>
    simp only [GroupCondition.isRawFree, Bool.and_eq_true] at h
    exact lifts_compare hadmits h.1 op h.2
  | between column low high negated =>
    simp only [GroupCondition.isRawFree, Bool.and_eq_true] at h
    exact .ok (inlines_between hadmits h.1.1 h.1.2 h.2 negated)
  | raw sql bindings => simp [GroupCondition.isRawFree] at h

end Dialect

end WarehouseSql
