import WarehouseSql.Proofs.Fragment.Inlines
import WarehouseSql.Proofs.Template.Conditions

/-!
Compiled SQL and the parentheses in it.  `Nests a b sql` says that a text made of tokens leads from one depth of
parentheses to another without closing more than is open; `Frames a b sql` adds that it shows no connective outside of
them.  Both are kept when texts are put end to end, and **a text that nests shows nothing in parentheses**
(`Nests.inside`), whatever it holds.
-/

namespace WarehouseSql

open LexState Template

namespace Token

/-! ### tokens -/

/-- What of a token stands in code: its character, or quotes. -/
def outline : Token → List Char
  | .plain c _ => [c]
  | .quoted content => shaded (Text.quoteLiteral content).toList
  | .name content => shaded (Text.quoteIdentifier content).toList
  | .value _ => shaded ['?']

def outlines (ts : List Token) : List Char := ts.flatMap outline

@[simp] lemma outlines_cons (t : Token) (ts : List Token) : outlines (t :: ts) = t.outline ++ outlines ts := rfl

@[simp] lemma outlines_append (ts us : List Token) : outlines (ts ++ us) = outlines ts ++ outlines us :=
  List.flatMap_append

lemma run_quoteLiteral {s : LexState} (hs : IsBetween s) (content : String) :
    s.run (Text.quoteLiteral content).toList = .singleEnd := by
  have hrun := (leads_quoteLiteral content).run
  rw [toList_quoteLiteral, run_cons] at hrun ⊢
  rw [hs.step]
  exact hrun

lemma run_quoteIdentifier {s : LexState} (hs : IsBetween s) (content : String) :
    s.run (Text.quoteIdentifier content).toList = .doubleEnd := by
  have hrun := (leads_quoteIdentifier content).run
  rw [toList_quoteIdentifier, run_cons] at hrun ⊢
  rw [hs.step]
  exact hrun

/-- A text that has only silent characters in code leaves the depth of parentheses, and nothing of it is shown. -/
lemma shows_region {s : LexState} {cs : List Char} (h : ∀ c ∈ codeChars s cs, IsSilent c) (depth : Nat)
    (rest : List Char) :
    outerChars depth (codeChars s (cs ++ rest)) = shaded cs ++ outerChars depth (codeChars (s.run cs) rest) ∧
      depthAfter? depth (codeChars s (cs ++ rest)) = depthAfter? depth (codeChars (s.run cs) rest) := by
  obtain ⟨houter, hdepth⟩ := silent h depth
  rw [codeChars_append, outerChars_append hdepth, depthAfter?_append, hdepth, houter, shaded, length_codeChars]
  exact ⟨rfl, rfl⟩

/-- A text and the outlines of its tokens show the same words and have the same parentheses. -/
def ShowsAlike (as bs : List Char) : Prop :=
  ∀ depth, outerChars depth as = outerChars depth bs ∧ depthAfter? depth as = depthAfter? depth bs

lemma showsAlike_cons (c : Char) {as bs : List Char} (h : ShowsAlike as bs) : ShowsAlike (c :: as) (c :: bs) := by
  intro depth
  obtain ⟨houter, hdepth⟩ := h (deepen depth c)
  rw [outerChars, outerChars, depthAfter?, depthAfter?, houter, hdepth]
  exact ⟨rfl, rfl⟩

lemma showsAlike_region {s : LexState} {cs : List Char} (hsilent : ∀ c ∈ codeChars s cs, IsSilent c)
    {rest bs : List Char} (h : ShowsAlike (codeChars (s.run cs) rest) bs) :
    ShowsAlike (codeChars s (cs ++ rest)) (shaded cs ++ bs) := by
  intro depth
  obtain ⟨houter, hdepth⟩ := h depth
  obtain ⟨houter', hdepth'⟩ := shows_region hsilent depth rest
  rw [houter', hdepth', houter, hdepth, outerChars_shaded, depthAfter?_append, depthAfter?_shaded]
  exact ⟨rfl, rfl⟩

/-- **A text shows what its tokens show**, wherever it stands. -/
theorem showsAlike_read (ts : List Token) :
    ∀ s, IsBetween s → ShowsAlike (codeChars s (source (read ts))) (outlines ts) := by
  induction ts with
  | nil => exact fun _ _ _ => ⟨rfl, rfl⟩
  | cons t ts ih =>
    intro s hs
    rw [read_cons, source_append, outlines_cons]
    -- each token leads to a state between tokens, so that the rest is read as in the induction
    cases t with
    | plain c h =>
      have hstep : s.step c = .code := (hs.step c).trans (afterCode_of_isCalm h)
      have hshown : codeChars s [c] = [c] := codeChars_of_isCalm hs (by simpa using h)
      have htext : source (symbols (.plain c h)) = [c] := rfl
      rw [htext, codeChars_append, hshown, run_cons, run_nil, hstep]
      exact showsAlike_cons c (ih .code (.inl rfl))
    | quoted content =>
      rw [outline, symbols, source_chars]
      refine showsAlike_region (fun c hc => ?_) ?_
      · rw [Tame.shown_quoteLiteral hs content c hc]
        decide
      · rw [run_quoteLiteral hs]
        exact ih _ (.inr (.inl rfl))
    | name content =>
      rw [outline, symbols, source_chars]
      refine showsAlike_region (fun c hc => ?_) ?_
      · rcases Tame.shown_quoteIdentifier hs content c hc with rfl | rfl <;> decide
      · rw [run_quoteIdentifier hs]
        exact ih _ (.inr (.inr rfl))
    | value v =>
      have htext : source (symbols (.value v)) = ['?'] := rfl
      have hrun : s.run ['?'] = .code := hs.step '?'
      rw [outline, htext]
      refine showsAlike_region (List.forall_mem_singleton.2 ?_) ?_
      · split_ifs <;> decide
      · rw [hrun]
        exact ih _ (.inl rfl)

lemma length_outlines (ts : List Token) : (outlines ts).length = (source (read ts)).length := by
  induction ts with
  | nil => rfl
  | cons t ts ih => cases t <;> simp [outline, symbols, shaded, Symbol.source, ih]

lemma depthAfter?_blank {c : Char} (hc : Text.isBlank c = true) (depth : Nat) (cs : List Char) :
    depthAfter? depth (c :: cs) = depthAfter? depth cs := by
  have hparens : c ≠ '(' ∧ c ≠ ')' := by
    constructor <;> rintro rfl <;> exact absurd hc (by decide)
  rw [depthAfter?, deepen, if_neg hparens.1, if_neg hparens.2, if_neg fun h => hparens.2 h.1]

/-- White space has no part in the depth of parentheses. -/
lemma depthAfter?_trim (ts : List Token) (depth : Nat) :
    depthAfter? depth (outlines (trim ts)) = depthAfter? depth (outlines ts) := by
  -- from the front, token by token
  have hstart : ∀ ts : List Token,
      depthAfter? depth (outlines (ts.dropWhile isBlank)) = depthAfter? depth (outlines ts) := by
    intro ts
    induction ts with
    | nil => rfl
    | cons t ts ih =>
      cases h : t.isBlank with
      | false => rw [List.dropWhile_cons_of_neg (by simp [h])]
      | true =>
        obtain ⟨c, hc, rfl, hblank⟩ := exists_plain_of_isBlank h
        rw [List.dropWhile_cons_of_pos h, ih, outlines_cons, outline, List.singleton_append, depthAfter?_blank hblank]
  -- from the back, by induction on the last token
  have hend : ∀ ts : List Token, depthAfter? depth (outlines (ts.reverse.dropWhile isBlank).reverse) =
      depthAfter? depth (outlines ts) := by
    intro ts
    induction ts using List.reverseRecOn with
    | nil => rfl
    | append_singleton ts t ih =>
      rw [List.reverse_append, List.reverse_singleton, List.singleton_append]
      cases h : t.isBlank with
      | false => rw [List.dropWhile_cons_of_neg (by simp [h]), List.reverse_cons, List.reverse_reverse]
      | true =>
        obtain ⟨c, hc, rfl, hblank⟩ := exists_plain_of_isBlank h
        have hlast : ∀ n, depthAfter? n (outlines [.plain c hc]) = some n := fun n => depthAfter?_blank hblank n []
        rw [List.dropWhile_cons_of_pos h, ih, outlines_append, depthAfter?_append]
        simp only [hlast, Option.bind_fun_some]
  rw [trim, hend, hstart]

end Token

/-! ### texts -/

/-- A text of tokens that leads from one depth of parentheses to another and shows these characters in words outside of
quotes and parentheses. -/
def Outlines (a b : Nat) (sql : String) (shown : List Char) : Prop :=
  ∃ ts, sql.toList = source (Token.read ts) ∧ depthAfter? a (Token.outlines ts) = some b ∧
    shown = outerChars a (Token.outlines ts)

namespace Outlines

variable {a b c : Nat} {s t : String} {x y : List Char}

lemma append (hs : Outlines a b s x) (ht : Outlines b c t y) : Outlines a c (s ++ t) (x ++ y) := by
  obtain ⟨ts, hts, hdepth, rfl⟩ := hs
  obtain ⟨us, hus, hdepth', rfl⟩ := ht
  refine ⟨ts ++ us, ?_, ?_, ?_⟩
  · rw [String.toList_append, hts, hus, Token.read_append, source_append]
  · rw [Token.outlines_append, depthAfter?_append, hdepth, Option.bind_some, hdepth']
  · rw [Token.outlines_append, outerChars_append hdepth]

lemma length_eq (h : Outlines a b s x) : s.toList.length = x.length := by
  obtain ⟨ts, hts, -, rfl⟩ := h
  rw [hts, length_outerChars, Token.length_outlines]

lemma zip_append (h : Outlines a b s x) (t : String) (y : List Char) :
    (s ++ t).toList.zip (x ++ y) = s.toList.zip x ++ t.toList.zip y := by
  rw [String.toList_append, List.zip_append h.length_eq]

/-- **What is shown of a text is what its tokens show.** -/
lemma toList_outerText (h : Outlines 0 b s x) : (outerText s).toList = x := by
  obtain ⟨ts, hts, -, rfl⟩ := h
  rw [outerText, String.toList_ofList, hts, (Token.showsAlike_read ts .code (.inl rfl) 0).1]

lemma succ (h : Outlines a b s x) : Outlines (a + 1) (b + 1) s (shaded s.toList) := by
  obtain ⟨ts, hts, hdepth, -⟩ := h
  refine ⟨ts, hts, depthAfter?_succ hdepth, ?_⟩
  rw [outerChars_succ hdepth, shaded, shaded, hts, Token.length_outlines]

lemma empty (a : Nat) : Outlines a a "" [] := ⟨[], rfl, rfl, rfl⟩

lemma of_shaded {t : Token} (hsource : s.toList = source t.symbols) (houtline : t.outline = shaded s.toList) (a : Nat) :
    Outlines a a s (shaded s.toList) := by
  have htoken : Token.outlines [t] = shaded s.toList := by simpa [Token.outlines] using houtline
  refine ⟨[t], by simpa using hsource, ?_, ?_⟩
  · rw [htoken, depthAfter?_shaded]
  · rw [htoken]
    simpa [outerChars] using (outerChars_shaded a s.toList []).symm

lemma quoteLiteral (content : String) (a : Nat) :
    Outlines a a (Text.quoteLiteral content) (shaded (Text.quoteLiteral content).toList) :=
  of_shaded (t := .quoted content) (source_chars _).symm rfl a

lemma quoteIdentifier (content : String) (a : Nat) :
    Outlines a a (Text.quoteIdentifier content) (shaded (Text.quoteIdentifier content).toList) :=
  of_shaded (t := .name content) (source_chars _).symm rfl a

lemma placeholder (v : Value) (a : Nat) : Outlines a a "?" ['\''] := of_shaded (t := .value v) rfl rfl a

lemma of_isCalm (hcalm : s.toList.all isCalm = true) (hdepth : depthAfter? a s.toList = some b) :
    Outlines a b s (outerChars a s.toList) := by
  have hchars : ∀ cs : List Char, cs.all isCalm = true →
      ∃ ts, cs = source (Token.read ts) ∧ Token.outlines ts = cs := by
    intro cs hcs
    induction cs with
    | nil => exact ⟨[], rfl, rfl⟩
    | cons c cs ih =>
      rw [List.all_cons, Bool.and_eq_true] at hcs
      obtain ⟨ts, hts, houtline⟩ := ih hcs.2
      exact ⟨.plain c hcs.1 :: ts, congrArg (c :: ·) hts, congrArg (c :: ·) houtline⟩
  obtain ⟨ts, hts, houtline⟩ := hchars _ hcalm
  exact ⟨ts, hts, by rw [houtline, hdepth], by rw [houtline]⟩

end Outlines

/-- A text of tokens that leads from one depth of parentheses to another. -/
def Nests (a b : Nat) (sql : String) : Prop := ∃ shown, Outlines a b sql shown

/-- A text of tokens that leads from one depth of parentheses to another and shows no connective outside of them. -/
def Frames (a b : Nat) (sql : String) : Prop := ∃ shown, Outlines a b sql shown ∧ Quiet shown

/-- Whether calm characters lead from one depth of parentheses to another. -/
def IsStep (a b : Nat) (sql : String) : Prop := sql.toList.all isCalm = true ∧ depthAfter? a sql.toList = some b

instance (a b : Nat) (sql : String) : Decidable (IsStep a b sql) := by unfold IsStep; infer_instance

variable {a b c : Nat} {s t : String}

namespace Nests

lemma append (hs : Nests a b s) (ht : Nests b c t) : Nests a c (s ++ t) := by
  obtain ⟨x, hx⟩ := hs
  obtain ⟨y, hy⟩ := ht
  exact ⟨x ++ y, hx.append hy⟩

lemma word (h : IsStep a b s) : Nests a b s := ⟨_, .of_isCalm h.1 h.2⟩

lemma succ (h : Nests a b s) : Nests (a + 1) (b + 1) s := by
  obtain ⟨_, hx⟩ := h
  exact ⟨_, hx.succ⟩

lemma isBalanced (h : Nests 0 0 s) : IsBalanced s := by
  obtain ⟨_, ts, hts, hdepth, -⟩ := h
  rw [IsBalanced, hts, (Token.showsAlike_read ts .code (.inl rfl) 0).2, hdepth]

/-- **Nothing is shown in parentheses.** -/
theorem inside (h : Nests a b s) : Frames (a + 1) (b + 1) s := by
  obtain ⟨_, hx⟩ := h
  exact ⟨_, hx.succ, quiet_shaded _⟩

/-- Characters with a property that none of those has which mean something to the scanner, and no parenthesis. -/
lemma of_test {p : Char → Bool} (hp : (['\'', '"', '-', '/', '$', '?', ':', '(', ')'].all fun c => !p c) = true)
    (h : s.toList.all p = true) : Nests 0 0 s := by
  have hcalm : ∀ c, p c = true → isCalm c = true := by
    have hmeaning : (['\'', '"', '-', '/', '$', '?', ':'].all fun c => !p c) = true := by
      rw [List.all_eq_true] at hp ⊢
      exact fun c hc => hp c (List.mem_append_left ['(', ')'] hc)
    exact fun c => isCalm_of_test hmeaning
  have hparens : ∀ c, p c = true → c ≠ '(' ∧ c ≠ ')' := by
    simp only [List.all_cons, Bool.and_eq_true, Bool.not_eq_true'] at hp
    intro c hc
    constructor <;> rintro rfl
    · rw [hc] at hp
      exact absurd hp.2.2.2.2.2.2.2.1 (by decide)
    · rw [hc] at hp
      exact absurd hp.2.2.2.2.2.2.2.2.1 (by decide)
  have hdepth : ∀ cs : List Char, cs.all p = true → depthAfter? 0 cs = some 0 := by
    intro cs hcs
    induction cs with
    | nil => rfl
    | cons c cs ih =>
      rw [List.all_cons, Bool.and_eq_true] at hcs
      obtain ⟨hopen, hclose⟩ := hparens c hcs.1
      rw [depthAfter?, deepen, if_neg hopen, if_neg hclose, if_neg fun h => hclose h.1, ih hcs.2]
  exact .word ⟨List.all_eq_true.2 fun c hc => hcalm c (List.all_eq_true.1 h c hc), hdepth _ h⟩

lemma intercalate {separator : String} (hseparator : Nests 0 0 separator) {pieces : List String}
    (h : ∀ piece ∈ pieces, Nests 0 0 piece) : Nests 0 0 (String.intercalate separator pieces) :=
  Fragment.intercalate_induction ⟨_, .empty 0⟩ .append hseparator h

lemma trim (h : Nests a b s) : Nests a b (Text.trim s) := by
  obtain ⟨_, ts, hts, hdepth, -⟩ := h
  obtain ⟨htrim, -, -⟩ := Token.read_trim ts
  refine ⟨_, Token.trim ts, ?_, ?_, rfl⟩
  · rw [Text.trim, String.toList_ofList, hts, htrim]
  · rw [Token.depthAfter?_trim, hdepth]

lemma sentence {fs : List Fragment} (h : ∀ f ∈ fs, Nests 0 0 f.sql) : Nests 0 0 (Fragment.sentence fs).sql := by
  refine .intercalate (.word (by decide)) fun piece hpiece => ?_
  obtain ⟨hpiece, -⟩ := List.mem_filter.1 hpiece
  obtain ⟨f, hf, rfl⟩ := List.mem_map.1 hpiece
  exact (h f hf).trim

lemma join {separator : String} (hseparator : Nests 0 0 separator) {fs : List Fragment}
    (h : ∀ f ∈ fs, Nests 0 0 f.sql) : Nests 0 0 (Fragment.join separator fs).sql := by
  refine .intercalate hseparator fun piece hpiece => ?_
  obtain ⟨f, hf, rfl⟩ := List.mem_map.1 hpiece
  exact h f hf

end Nests

namespace Frames

lemma nests (h : Frames a b s) : Nests a b s := by
  obtain ⟨x, hx, -⟩ := h
  exact ⟨x, hx⟩

lemma append (hs : Frames a b s) (ht : Frames b c t) : Frames a c (s ++ t) := by
  obtain ⟨x, hx, hquiet⟩ := hs
  obtain ⟨y, hy, hquiet'⟩ := ht
  exact ⟨x ++ y, hx.append hy, hquiet.append hquiet'⟩

lemma word (h : IsStep a b s) (hquiet : Quiet (outerChars a s.toList)) : Frames a b s :=
  ⟨_, .of_isCalm h.1 h.2, hquiet⟩

lemma quoteLiteral (content : String) (a : Nat) : Frames a a (Text.quoteLiteral content) :=
  ⟨_, .quoteLiteral content a, quiet_shaded _⟩

lemma quoteIdentifier (content : String) (a : Nat) : Frames a a (Text.quoteIdentifier content) :=
  ⟨_, .quoteIdentifier content a, quiet_shaded _⟩

lemma placeholder (v : Value) (a : Nat) : Frames a a "?" := ⟨_, .placeholder v a, by decide⟩

end Frames

/-! ### the ends of texts -/

/-- Whether a text begins with a character that is no white space. -/
def Begins (s : String) : Prop := s.toList.head?.any (fun c => !Text.isBlank c) = true

instance : DecidablePred Begins := fun s => by unfold Begins; infer_instance

/-- Whether a text ends with a character that is no white space. -/
def Ends (s : String) : Prop := s.toList.getLast?.any (fun c => !Text.isBlank c) = true

instance : DecidablePred Ends := fun s => by unfold Ends; infer_instance

lemma Begins.append {a : String} (h : Begins a) (b : String) : Begins (a ++ b) := by
  rw [Begins, Option.any_eq_true] at h
  obtain ⟨c, hc, hblank⟩ := h
  rw [Begins, String.toList_append, List.head?_append, hc]
  exact hblank

lemma Ends.append (a : String) {b : String} (h : Ends b) : Ends (a ++ b) := by
  rw [Ends, Option.any_eq_true] at h
  obtain ⟨c, hc, hblank⟩ := h
  rw [Ends, String.toList_append, List.getLast?_append, hc]
  exact hblank

/-- A text without white space at its ends. -/
structure Edged (s : String) : Prop where
  begins : Begins s
  ends : Ends s

namespace Edged

lemma isTrimmed_iff {s : String} : Token.IsTrimmed s.toList ↔ Edged s := by
  constructor
  · rintro ⟨c, d, hc, hd, hblank, hblank'⟩
    refine ⟨?_, ?_⟩
    · rw [Begins, hc]
      simpa using hblank
    · rw [Ends, hd]
      simpa using hblank'
  · rintro ⟨hbegins, hends⟩
    rw [Begins, Option.any_eq_true] at hbegins
    rw [Ends, Option.any_eq_true] at hends
    obtain ⟨c, hc, hblank⟩ := hbegins
    obtain ⟨d, hd, hblank'⟩ := hends
    exact ⟨c, d, hc, hd, by simpa using hblank, by simpa using hblank'⟩

lemma trim_eq {s : String} (h : Edged s) : Text.trim s = s := by
  have htrimmed := isTrimmed_iff.2 h
  have hstart := Token.trimStartChars_append htrimmed []
  rw [List.append_nil] at hstart
  rw [Text.trim, Text.trimChars, hstart]
  exact (congrArg _ (Token.trimEndChars_append htrimmed [])).trans String.ofList_toList

lemma intercalate {separator : String} {pieces : List String} (hne : pieces ≠ []) (h : ∀ piece ∈ pieces, Edged piece) :
    Edged (String.intercalate separator pieces) := by
  induction pieces with
  | nil => exact absurd rfl hne
  | cons piece pieces ih =>
    obtain ⟨hpiece, hpieces⟩ := List.forall_mem_cons.1 h
    cases pieces with
    | nil => simpa using hpiece
    | cons next pieces =>
      rw [String.intercalate_cons_cons]
      exact ⟨(hpiece.begins.append _).append _, .append _ (ih (List.cons_ne_nil _ _) hpieces).ends⟩

end Edged

end WarehouseSql
