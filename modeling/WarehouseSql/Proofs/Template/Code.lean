import Mathlib.Data.List.Chain
import WarehouseSql.Proofs.Fragment.Tokens
import WarehouseSql.Statement.Basic

/-!
What of a statement stands in code.  `Template.codeText` shows a quote in place of each character that stands in a string
literal, a quoted identifier, a comment or a `$$` block.  The words `add constraint` stand in code if they are found
there; then they are found in the statement as well (`isConstraint_of_codeText`), but not the other way round
(`Template.Hidden`).  **A text is tame if it reads alike wherever it stands and does not even hold the two letters `ai`
in code** (`Tame`), which is kept when texts are put together, so that the words cannot come about in between.
-/

namespace WarehouseSql

open LexState Template

/-! ### the code of a text -/

namespace Template

/-- The characters of a text that stand in code when it is read from a state on, and a quote for each other one. -/
def codeChars (s : LexState) : List Char → List Char
  | [] => []
  | c :: cs => (if s.region (some c) = .code then c else '\'') :: codeChars (s.step c) cs

/-- What of a text stands in code. -/
def codeText (sql : String) : String := String.ofList (codeChars .code sql.toList)

/-- The words that add a constraint stand in a text, but not in its code. -/
def Hidden (sql : String) : Prop :=
  DeferredStatement.isConstraint sql = true ∧ DeferredStatement.isConstraint (codeText sql) = false

instance (sql : String) : Decidable (Hidden sql) := by unfold Hidden; infer_instance

lemma codeChars_append (s : LexState) (as bs : List Char) :
    codeChars s (as ++ bs) = codeChars s as ++ codeChars (s.run as) bs := by
  induction as generalizing s with
  | nil => rfl
  | cons a as ih => rw [List.cons_append, codeChars, codeChars, ih, run_cons, List.cons_append]

@[simp] lemma length_codeChars (s : LexState) (cs : List Char) : (codeChars s cs).length = cs.length := by
  induction cs generalizing s with
  | nil => rfl
  | cons c cs ih => simp [codeChars, ih]

example : codeText "select 'a' /* b */ from t -- c" = "select ''' /*''''' from t --''" := by decide +kernel

lemma mem_of_mem_codeChars {s : LexState} {cs : List Char} {c : Char} (h : c ∈ codeChars s cs) : c ∈ cs ∨ c = '\'' := by
  induction cs generalizing s with
  | nil => exact absurd h List.not_mem_nil
  | cons d cs ih =>
    rcases List.mem_cons.1 h with rfl | h
    · split_ifs
      · exact .inl List.mem_cons_self
      · exact .inr rfl
    · exact (ih h).imp_left (List.mem_cons_of_mem d)

lemma codeChars_of_isCalm {s : LexState} (hs : Token.IsBetween s) {cs : List Char} (h : cs.all isCalm = true) :
    codeChars s cs = cs := by
  induction cs generalizing s with
  | nil => rfl
  | cons c cs ih =>
    rw [List.all_cons, Bool.and_eq_true] at h
    have hstep : s.step c = .code := (hs.step c).trans (afterCode_of_isCalm h.1)
    have hregion : s.region (some c) = .code := by
      have hcalm : c ≠ '\'' ∧ c ≠ '"' := by
        constructor <;> rintro rfl <;> exact absurd h.1 (by decide)
      rcases hs with rfl | rfl | rfl <;> simp [region, hcalm]
    rw [codeChars, if_pos hregion, hstep, ih (.inl rfl) h.2]

end Template

/-! ### words in texts -/

lemma contains_iff {part cs : List Char} : Text.contains part cs = true ↔ part <:+: cs := by
  induction cs with
  | nil => simp [Text.contains, List.infix_nil]
  | cons c cs ih => rw [Text.contains, Bool.or_eq_true, ih, List.isPrefixOf_iff_prefix, List.infix_cons_iff]

def constraintWords : List Char := "add constraint".toList

lemma isConstraint_iff (sql : String) :
    DeferredStatement.isConstraint sql = true ↔ constraintWords <:+: sql.toList.map Char.toLower := by
  show Text.contains constraintWords (String.ofList (sql.toList.map Char.toLower)).toList = true ↔ _
  rw [contains_iff, String.toList_ofList]

lemma isConstraint_codeText_iff (sql : String) :
    DeferredStatement.isConstraint (codeText sql) = true ↔
      constraintWords <:+: (codeChars .code sql.toList).map Char.toLower := by
  rw [isConstraint_iff, codeText, String.toList_ofList]

lemma prefix_of_codeChars {word cs : List Char} (hword : '\'' ∉ word) {s : LexState}
    (h : word <+: (codeChars s cs).map Char.toLower) : word <+: cs.map Char.toLower := by
  induction cs generalizing s word with
  | nil => exact h
  | cons c cs ih =>
    cases word with
    | nil => exact List.nil_prefix
    | cons d word =>
      rw [codeChars, List.map_cons, List.cons_prefix_cons] at h
      obtain ⟨hfirst, hrest⟩ := h
      have hshown : d = c.toLower := by
        split_ifs at hfirst
        · exact hfirst
        · rw [hfirst] at hword
          exact absurd List.mem_cons_self hword
      rw [List.map_cons, List.cons_prefix_cons]
      exact ⟨hshown, ih (fun hmem => hword (List.mem_cons_of_mem _ hmem)) hrest⟩

lemma infix_of_codeChars {word cs : List Char} (hword : '\'' ∉ word) {s : LexState}
    (h : word <:+: (codeChars s cs).map Char.toLower) : word <:+: cs.map Char.toLower := by
  induction cs generalizing s with
  | nil => exact h
  | cons c cs ih =>
    have hcases : word <+: (codeChars s (c :: cs)).map Char.toLower ∨
        word <:+: (codeChars (s.step c) cs).map Char.toLower := List.infix_cons_iff.1 h
    rcases hcases with hprefix | hwithin
    · exact (prefix_of_codeChars hword hprefix).isInfix
    · exact List.infix_cons (ih hwithin)

/-- **Words that stand in the code of a text stand in the text.** -/
theorem isConstraint_of_codeText {sql : String} (h : DeferredStatement.isConstraint (codeText sql) = true) :
    DeferredStatement.isConstraint sql = true :=
  (isConstraint_iff sql).2 (infix_of_codeChars (by decide) ((isConstraint_codeText_iff sql).1 h))

lemma isConstraint_iff_codeText (sql : String) :
    DeferredStatement.isConstraint sql = true ↔ DeferredStatement.isConstraint (codeText sql) = true ∨ Hidden sql := by
  constructor
  · intro h
    cases hcode : DeferredStatement.isConstraint (codeText sql) with
    | true => exact .inl rfl
    | false => exact .inr ⟨h, hcode⟩
  · rintro (h | h)
    · exact isConstraint_of_codeText h
    · exact h.1

/-! ### clean texts -/

/-- A text that reads alike wherever it stands between other ones, and in which no marker starts. -/
def Clean (sql : String) : Prop := ∀ s, Token.IsBetween s → ∃ t, Token.IsBetween t ∧ Leads s sql.toList t

/-- A text that is read alike from code and from the end of quotes. -/
lemma clean_of_leads {sql : String} {t : LexState} (ht : Token.IsBetween t) (h : Leads .code sql.toList t) :
    Clean sql := by
  intro s hs
  cases hchars : sql.toList with
  | nil => exact ⟨s, hs, .nil s⟩
  | cons c cs =>
    rw [hchars] at h
    have hstep : s.step c = LexState.step .code c := hs.step c
    refine ⟨t, ht, ⟨by rw [run_cons, hstep]; exact h.run, fun before next => ⟨?_, ?_⟩⟩⟩
    · have hfirst := (h.unmarked before next).1
      rw [opensMarker] at hfirst ⊢
      rw [hs.isCode]
      exact hfirst
    · rw [hstep]
      exact (h.unmarked before next).2

lemma clean_of_isCalm {sql : String} (h : sql.toList.all isCalm = true) : Clean sql :=
  clean_of_leads (.inl rfl) (leads_of_isCalm h)

lemma Clean.append {a b : String} (ha : Clean a) (hb : Clean b) : Clean (a ++ b) := by
  intro s hs
  obtain ⟨t, ht, hst⟩ := ha s hs
  obtain ⟨u, hu, htu⟩ := hb t ht
  exact ⟨u, hu, by rw [String.toList_append]; exact hst.append htu⟩

lemma Clean.hasMarkers {sql : String} (h : Clean sql) : (parse sql).hasMarkers = false := by
  obtain ⟨t, -, hleads⟩ := h .code (.inl rfl)
  exact hasMarkers_eq_false_iff.2 (hleads.unmarked none none)

/-- After a clean text the words that add a constraint stand in code. -/
lemma isConstraint_codeText_append {before after : String} (h : Clean before) :
    DeferredStatement.isConstraint (codeText (before ++ ("add constraint " ++ after))) = true := by
  obtain ⟨t, ht, hleads⟩ := h .code (.inl rfl)
  have hwords : codeChars t "add constraint ".toList = "add constraint ".toList := codeChars_of_isCalm ht (by decide)
  have hwithin : constraintWords <:+: "add constraint ".toList.map Char.toLower := by decide
  rw [isConstraint_codeText_iff, String.toList_append, String.toList_append, codeChars_append, hleads.run,
    codeChars_append, hwords, List.map_append, List.map_append]
  exact (hwithin.trans (List.prefix_append _ _).isInfix).trans (List.suffix_append _ _).isInfix

/-! ### letters that do not meet -/

/-- Characters without `first` right before `second` that do not end in `first`, so that the two do not meet where other
characters follow either. -/
def Avoids (first second : Char) (cs : List Char) : Prop :=
  (cs.IsChain fun a b => ¬ (a = first ∧ b = second)) ∧ cs.getLast? ≠ some first

instance (first second : Char) (cs : List Char) : Decidable (Avoids first second cs) := by
  unfold Avoids
  infer_instance

lemma Avoids.append {first second : Char} {as bs : List Char} (ha : Avoids first second as)
    (hb : Avoids first second bs) : Avoids first second (as ++ bs) := by
  constructor
  · refine List.isChain_append.2 ⟨ha.1, hb.1, fun a hlast b _ h => ha.2 ?_⟩
    rw [← h.1]
    exact hlast
  · rw [List.getLast?_append]
    cases hlast : bs.getLast? with
    | none => exact ha.2
    | some b =>
      have hend := hb.2
      rw [hlast] at hend
      exact hend

lemma avoids_of_forall_ne {first second : Char} {cs : List Char} (h : ∀ c ∈ cs, c ≠ first) :
    Avoids first second cs := by
  constructor
  · induction cs with
    | nil => exact .nil
    | cons c cs ih =>
      refine List.isChain_cons.2 ⟨fun d _ hboth => h c List.mem_cons_self hboth.1, ih fun d hd => ?_⟩
      exact h d (List.mem_cons_of_mem c hd)
  · intro hlast
    exact h first (List.mem_of_getLast? hlast) rfl

/-! ### tame texts -/

/-- Characters that avoid the letters `ai`. -/
def Smooth (cs : List Char) : Prop := Avoids 'a' 'i' cs

instance (cs : List Char) : Decidable (Smooth cs) := by unfold Smooth; infer_instance

/-- A text that can be told to be tame letter by letter. -/
def IsWord (sql : String) : Prop := sql.toList.all isCalm = true ∧ Smooth (sql.toList.map Char.toLower)

instance (sql : String) : Decidable (IsWord sql) := by unfold IsWord; infer_instance

/-- A text that reads alike wherever it stands, and is smooth in code. -/
structure Tame (sql : String) : Prop where
  clean : Clean sql
  smooth : ∀ s, Token.IsBetween s → Smooth ((codeChars s sql.toList).map Char.toLower)

namespace Tame

lemma append {a b : String} (ha : Tame a) (hb : Tame b) : Tame (a ++ b) := by
  refine ⟨ha.clean.append hb.clean, fun s hs => ?_⟩
  obtain ⟨t, ht, hleads⟩ := ha.clean s hs
  rw [String.toList_append, codeChars_append, List.map_append, hleads.run]
  exact Avoids.append (ha.smooth s hs) (hb.smooth t ht)

lemma word {sql : String} (h : IsWord sql) : Tame sql := by
  refine ⟨clean_of_isCalm h.1, fun s hs => ?_⟩
  rw [codeChars_of_isCalm hs h.1]
  exact h.2

lemma of_forall_ne {sql : String} (h : Clean sql) (hne : ∀ c ∈ sql.toList, c.toLower ≠ 'a') : Tame sql := by
  refine ⟨h, fun s _ => avoids_of_forall_ne fun c hc => ?_⟩
  obtain ⟨d, hd, rfl⟩ := List.mem_map.1 hc
  rcases mem_of_mem_codeChars hd with hd | rfl
  · exact hne d hd
  · decide

lemma inside_escapeLiteral (cs : List Char) :
    ∀ c ∈ codeChars .single (Text.escapeLiteral cs ++ ['\'']), c = '\'' := by
  induction cs with
  | nil => exact List.forall_mem_singleton.2 rfl
  | cons d cs ih =>
    rw [Text.escapeLiteral]
    split_ifs with hd
    · rcases hd with rfl | rfl
      · exact List.forall_mem_cons.2 ⟨rfl, List.forall_mem_cons.2 ⟨rfl, ih⟩⟩
      · exact List.forall_mem_cons.2 ⟨rfl, List.forall_mem_cons.2 ⟨rfl, ih⟩⟩
    · obtain ⟨hquote, hbackslash⟩ := not_or.1 hd
      have hstep : LexState.step .single d = .single := by simp [step, hquote, hbackslash]
      rw [List.cons_append, codeChars, hstep]
      exact List.forall_mem_cons.2 ⟨rfl, ih⟩

/-- Nothing of a string literal stands in code but its quotes. -/
lemma shown_quoteLiteral {s : LexState} (hs : Token.IsBetween s) (content : String) :
    ∀ c ∈ codeChars s (Text.quoteLiteral content).toList, c = '\'' := by
  have hstep : s.step '\'' = .single := hs.step '\''
  rw [toList_quoteLiteral, codeChars, hstep]
  refine List.forall_mem_cons.2 ⟨?_, inside_escapeLiteral _⟩
  split_ifs <;> rfl

lemma quoteLiteral (content : String) : Tame (Text.quoteLiteral content) := by
  refine ⟨clean_of_leads (.inr (.inl rfl)) (leads_quoteLiteral content), fun s hs => ?_⟩
  refine avoids_of_forall_ne fun c hc => ?_
  obtain ⟨d, hd, rfl⟩ := List.mem_map.1 hc
  rw [shown_quoteLiteral hs content d hd]
  decide

lemma inside_escapeIdentifier (cs : List Char) :
    ∀ c ∈ codeChars .double (Text.escapeIdentifier cs ++ ['"']), c = '\'' := by
  induction cs with
  | nil => exact List.forall_mem_singleton.2 rfl
  | cons d cs ih =>
    rw [Text.escapeIdentifier]
    split_ifs with hd
    · rw [hd]
      exact List.forall_mem_cons.2 ⟨rfl, List.forall_mem_cons.2 ⟨rfl, ih⟩⟩
    · have hstep : LexState.step .double d = .double := by simp [step, hd]
      rw [List.cons_append, codeChars, hstep]
      exact List.forall_mem_cons.2 ⟨rfl, ih⟩

lemma shown_quoteIdentifier {s : LexState} (hs : Token.IsBetween s) (content : String) :
    ∀ c ∈ codeChars s (Text.quoteIdentifier content).toList, c = '"' ∨ c = '\'' := by
  have hstep : s.step '"' = .double := hs.step '"'
  rw [Token.toList_quoteIdentifier, codeChars, hstep]
  refine List.forall_mem_cons.2 ⟨?_, fun c hc => .inr (inside_escapeIdentifier _ c hc)⟩
  split_ifs
  · exact .inl rfl
  · exact .inr rfl

lemma quoteIdentifier (content : String) : Tame (Text.quoteIdentifier content) := by
  refine ⟨clean_of_leads (.inr (.inr rfl)) (Token.leads_quoteIdentifier content), fun s hs => ?_⟩
  refine avoids_of_forall_ne fun c hc => ?_
  obtain ⟨d, hd, rfl⟩ := List.mem_map.1 hc
  rcases shown_quoteIdentifier hs content d hd with rfl | rfl <;> decide

/-- Numbers are tame, also with a sign in front that stands without parentheses. -/
lemma of_isSigned {number : String} (h : IsSigned number.toList) : Tame number := by
  have hne : ∀ c ∈ number.toList, c.toLower ≠ 'a' := by
    have hall : numberChars.all (·.toLower != 'a') = true := by decide
    exact fun c hc => bne_iff_ne.1 (List.all_eq_true.1 hall c (h.mem_numberChars c hc))
  obtain ⟨unsigned, hunsigned, hcases⟩ := h
  have hleads : Leads .code number.toList .code := by
    rcases hcases with hcs | hcs | hcs
    · rw [hcs]
      exact hunsigned.leads
    · rw [hcs]
      have hplus : Leads .code ['+'] .code := leads_of_isCalm (by decide)
      exact hplus.append hunsigned.leads
    · obtain ⟨c, tail, rfl, hc⟩ := hunsigned.exists_head
      rw [hcs]
      exact leads_minus hc hunsigned.leads
  exact of_forall_ne (clean_of_leads (.inl rfl) hleads) hne

/-- **The words that add a constraint do not stand in the code of a tame text.** -/
theorem isConstraint_codeText {sql : String} (h : Tame sql) : DeferredStatement.isConstraint (codeText sql) = false := by
  rw [Bool.eq_false_iff]
  intro hconstraint
  obtain ⟨hchain, -⟩ := h.smooth .code (.inl rfl)
  have hwords := hchain.infix ((isConstraint_codeText_iff sql).1 hconstraint)
  exact absurd hwords (by decide)

end Tame

end WarehouseSql
