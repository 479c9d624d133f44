import Mathlib.Data.List.Induction
import WarehouseSql.Proofs.Template.Markers

/-!
Compiled SQL, token by token.  A token is a character that means nothing to the scanner, a string literal, a quoted
identifier or a placeholder with its value.  **Tokens read as what they are, whatever stands before them**
(`Token.scans_read`), and **trimming takes the same tokens off with placeholders and with literals**
(`Token.read_trim`).
-/

namespace WarehouseSql

open Template

inductive Token where
  | plain (c : Char) (h : LexState.isCalm c = true)
  | quoted (content : String)
  | name (content : String)
  | value (v : Value)

namespace Token

def symbols : Token → List Symbol
  | .plain c _ => [.char c]
  | .quoted content => chars (Text.quoteLiteral content).toList
  | .name content => chars (Text.quoteIdentifier content).toList
  | .value v => [.positional (v.literal none).toList]

def value? : Token → Option Value
  | .plain _ _ => none
  | .quoted _ => none
  | .name _ => none
  | .value v => some v

def read (ts : List Token) : List Symbol := ts.flatMap symbols

def values (ts : List Token) : List Value := ts.filterMap value?

@[simp] lemma read_nil : read [] = [] := rfl

@[simp] lemma read_cons (t : Token) (ts : List Token) : read (t :: ts) = t.symbols ++ read ts := rfl

@[simp] lemma read_append (ts us : List Token) : read (ts ++ us) = read ts ++ read us := List.flatMap_append

@[simp] lemma values_nil : values [] = [] := rfl

@[simp] lemma values_cons (t : Token) (ts : List Token) : values (t :: ts) = t.value?.toList ++ values ts := by
  cases t <;> rfl

@[simp] lemma values_append (ts us : List Token) : values (ts ++ us) = values ts ++ values us :=
  List.filterMap_append

/-! ### reading tokens -/

lemma leads_escapeIdentifier (cs : List Char) : LexState.Leads .double (Text.escapeIdentifier cs) .double := by
  have hdouble := opensMarker_of_not_isCode (s := .double) rfl
  induction cs with
  | nil => exact .nil _
  | cons c cs ih =>
    unfold Text.escapeIdentifier
    split_ifs with hc
    · rw [hc]
      -- a doubled quote ends the region and begins it again
      exact .cons (fun _ _ => hdouble _ _ _) (.cons (fun _ _ => opensMarker_of_ne (by decide) (by decide)) ih)
    · refine .cons (fun _ _ => hdouble _ _ _) ?_
      rwa [show LexState.step .double c = .double by simp [LexState.step, hc]]

lemma toList_quoteIdentifier (content : String) :
    (Text.quoteIdentifier content).toList = '"' :: (Text.escapeIdentifier content.toList ++ ['"']) := by
  simp [Text.quoteIdentifier]

lemma leads_quoteIdentifier (content : String) :
    LexState.Leads .code (Text.quoteIdentifier content).toList .doubleEnd := by
  have hclose : LexState.Leads .double ['"'] .doubleEnd :=
    .cons (fun _ _ => opensMarker_of_not_isCode rfl _ _ _) (.nil _)
  rw [toList_quoteIdentifier]
  exact .cons (fun _ _ => opensMarker_of_ne (by decide) (by decide)) ((leads_escapeIdentifier _).append hclose)

/-- A state between tokens. -/
def IsBetween (s : LexState) : Prop := s = .code ∨ s = .singleEnd ∨ s = .doubleEnd

lemma IsBetween.isCode {s : LexState} (h : IsBetween s) : s.isCode = true := by
  rcases h with rfl | rfl | rfl <;> rfl

lemma IsBetween.step {s : LexState} (h : IsBetween s) (c : Char) : s.step c = LexState.step .code c := by
  rcases h with rfl | rfl | rfl <;> rfl

lemma scans_region {s t : LexState} (hs : IsBetween s) (ht : IsBetween t) {c : Char} {cs : List Char}
    (hc : LexState.completesNothing c) (h : LexState.Leads .code (c :: cs) t) {m : List Symbol}
    (hm : ∀ u, IsBetween u → ∀ before, Scans u before m) (before : Option Char) :
    Scans s before (chars (c :: cs) ++ m) := by
  have hleads := h.of_isCode hs.isCode hc
  rw [scans_chars_append, hleads.run]
  exact ⟨hleads.unmarked _ _, hm t ht _⟩

/-- **Tokens read as what they are**, whatever stands before them. -/
theorem scans_read (ts : List Token) : ∀ s, IsBetween s → ∀ before, Scans s before (read ts) := by
  induction ts with
  | nil => exact fun _ _ _ => trivial
  | cons t ts ih =>
    intro s hs before
    rw [read_cons]
    cases t with
    | plain c h =>
      refine ⟨LexState.opensMarker_of_isCalm h _ _ _, ih _ ?_ _⟩
      left
      show s.step c = .code
      rw [hs.step]
      exact LexState.afterCode_of_isCalm h
    | quoted content =>
      have hleads := leads_quoteLiteral content
      rw [symbols, toList_quoteLiteral] at *
      exact scans_region hs (.inr (.inl rfl)) (by refine ⟨?_, ?_, ?_⟩ <;> decide) hleads ih before
    | name content =>
      have hleads := leads_quoteIdentifier content
      rw [symbols, toList_quoteIdentifier] at *
      exact scans_region hs (.inr (.inr rfl)) (by refine ⟨?_, ?_, ?_⟩ <;> decide) hleads ih before
    | value v => exact ⟨hs.isCode, ih _ (.inl rfl) _⟩

lemma markerNames_read (ts : List Token) : markerNames (read ts) = [] := by
  induction ts with
  | nil => rfl
  | cons t ts ih => cases t <;> simp [symbols, ih]

lemma literals_read (ts : List Token) :
    literals (read ts) = ((values ts).map (·.literal none)).map String.toList := by
  induction ts with
  | nil => rfl
  | cons t ts ih => cases t <;> simp [symbols, value?, ih]

/-! ### blanks at the ends -/

def isBlank : Token → Bool
  | .plain c _ => Text.isBlank c
  | _ => false

lemma exists_plain_of_isBlank {t : Token} (h : t.isBlank = true) :
    ∃ c hc, t = .plain c hc ∧ Text.isBlank c = true := by
  cases t with
  | plain c hc => exact ⟨c, hc, rfl, h⟩
  | quoted content => simp [isBlank] at h
  | name content => simp [isBlank] at h
  | value v => simp [isBlank] at h

/-- A text that neither begins nor ends with a blank. -/
def IsTrimmed (cs : List Char) : Prop :=
  ∃ first last, cs.head? = some first ∧ cs.getLast? = some last ∧ Text.isBlank first = false ∧
    Text.isBlank last = false

lemma isTrimmed_enclosed {c : Char} (hc : Text.isBlank c = false) (cs : List Char) : IsTrimmed (c :: (cs ++ [c])) :=
  ⟨c, c, rfl, by simp [List.getLast?_cons, List.getLast?_append], hc, hc⟩

lemma isTrimmed_singleton {c : Char} (hc : Text.isBlank c = false) : IsTrimmed [c] := ⟨c, c, rfl, rfl, hc, hc⟩

lemma isTrimmed_literal (v : Value) : IsTrimmed (v.literal none).toList := by
  obtain ⟨first, last, hfirst, hlast, hbegins, hends, -⟩ := (v.literalForm_literal none).exists_ends
  simp only [beginsLiteral, endsLiteral, Bool.and_eq_true, Bool.not_eq_true'] at hbegins hends
  exact ⟨first, last, hfirst, hlast, hbegins.1, hends.1⟩

/-- A token that is no white space neither begins nor ends with a blank, with its placeholder or with its literal. -/
lemma isTrimmed_of_not_isBlank {t : Token} (h : t.isBlank = false) :
    IsTrimmed (source t.symbols) ∧ IsTrimmed (written t.symbols) := by
  cases t with
  | plain c _ => exact ⟨isTrimmed_singleton h, isTrimmed_singleton h⟩
  | quoted content =>
    rw [symbols, source_chars, written_chars, toList_quoteLiteral, and_self]
    exact isTrimmed_enclosed (by decide) _
  | name content =>
    rw [symbols, source_chars, written_chars, toList_quoteIdentifier, and_self]
    exact isTrimmed_enclosed (by decide) _
  | value v =>
    refine ⟨isTrimmed_singleton (by decide), ?_⟩
    rw [symbols, written_cons, written_nil, List.append_nil]
    exact isTrimmed_literal v

lemma read_cons_ne_nil (t : Token) (ts : List Token) :
    source (read (t :: ts)) ≠ [] ∧ written (read (t :: ts)) ≠ [] := by
  have hsymbols : source t.symbols ≠ [] ∧ written t.symbols ≠ [] := by
    cases h : t.isBlank with
    | false =>
      obtain ⟨⟨_, _, hsource, -⟩, ⟨_, _, hwritten, -⟩⟩ := isTrimmed_of_not_isBlank h
      exact ⟨fun hnil => by simp [hnil] at hsource, fun hnil => by simp [hnil] at hwritten⟩
    | true =>
      obtain ⟨c, hc, rfl, -⟩ := exists_plain_of_isBlank h
      simp [symbols, Symbol.source, Symbol.written]
  simp [hsymbols]

lemma trimStartChars_append {as : List Char} (h : IsTrimmed as) (bs : List Char) :
    Text.trimStartChars (as ++ bs) = as ++ bs := by
  obtain ⟨first, _, hfirst, -, hblank, -⟩ := h
  obtain ⟨as, rfl⟩ := List.head?_eq_some_iff.1 hfirst
  simp [Text.trimStartChars, hblank]

lemma trimEndChars_concat (cs : List Char) (c : Char) :
    Text.trimEndChars (cs ++ [c]) = if Text.isBlank c then Text.trimEndChars cs else cs ++ [c] := by
  induction cs with
  | nil => simp [Text.trimEndChars]
  | cons d cs ih =>
    rw [List.cons_append, Text.trimEndChars, ih]
    by_cases hc : Text.isBlank c = true
    · rw [if_pos hc, if_pos hc, Text.trimEndChars]
    · rw [if_neg hc, if_neg hc]
      cases cs <;> rfl

lemma trimEndChars_append {bs : List Char} (h : IsTrimmed bs) (as : List Char) :
    Text.trimEndChars (as ++ bs) = as ++ bs := by
  obtain ⟨_, last, -, hlast, -, hblank⟩ := h
  obtain ⟨bs, rfl⟩ := List.getLast?_eq_some_iff.1 hlast
  rw [← List.append_assoc, trimEndChars_concat, if_neg (by simp [hblank])]

/-- The tokens between the white space at both ends. -/
def trim (ts : List Token) : List Token := ((ts.dropWhile isBlank).reverse.dropWhile isBlank).reverse

lemma read_dropWhile (ts : List Token) :
    source (read (ts.dropWhile isBlank)) = Text.trimStartChars (source (read ts)) ∧
      written (read (ts.dropWhile isBlank)) = Text.trimStartChars (written (read ts)) ∧
      values (ts.dropWhile isBlank) = values ts := by
  induction ts with
  | nil => exact ⟨rfl, rfl, rfl⟩
  | cons t ts ih =>
    cases h : t.isBlank with
    | false =>
      obtain ⟨hsource, hwritten⟩ := isTrimmed_of_not_isBlank h
      rw [List.dropWhile_cons_of_neg (by simp [h]), read_cons, source_append, written_append,
        trimStartChars_append hsource, trimStartChars_append hwritten]
      exact ⟨rfl, rfl, rfl⟩
    | true =>
      rw [List.dropWhile_cons_of_pos h]
      obtain ⟨c, hc, rfl, hblank⟩ := exists_plain_of_isBlank h
      simpa [symbols, Symbol.source, Symbol.written, Text.trimStartChars, hblank, value?] using ih

lemma read_rdropWhile (ts : List Token) :
    source (read (ts.reverse.dropWhile isBlank).reverse) = Text.trimEndChars (source (read ts)) ∧
      written (read (ts.reverse.dropWhile isBlank).reverse) = Text.trimEndChars (written (read ts)) ∧
      values (ts.reverse.dropWhile isBlank).reverse = values ts := by
  induction ts using List.reverseRecOn with
  | nil => exact ⟨rfl, rfl, rfl⟩
  | append_singleton ts t ih =>
    rw [List.reverse_append, List.reverse_singleton, List.singleton_append]
    cases h : t.isBlank with
    | false =>
      obtain ⟨hsource, hwritten⟩ := isTrimmed_of_not_isBlank h
      rw [List.dropWhile_cons_of_neg (by simp [h]), List.reverse_cons, List.reverse_reverse, read_append,
        read_cons, read_nil, List.append_nil, source_append, written_append, trimEndChars_append hsource,
        trimEndChars_append hwritten]
      exact ⟨rfl, rfl, rfl⟩
    | true =>
      rw [List.dropWhile_cons_of_pos h]
      obtain ⟨c, hc, rfl, hblank⟩ := exists_plain_of_isBlank h
      simpa [symbols, Symbol.source, Symbol.written, trimEndChars_concat, hblank, value?] using ih

/-- **Trimming takes the same tokens off with placeholders and with literals**, and no value. -/
theorem read_trim (ts : List Token) :
    source (read (trim ts)) = Text.trimChars (source (read ts)) ∧
      written (read (trim ts)) = Text.trimChars (written (read ts)) ∧ values (trim ts) = values ts := by
  obtain ⟨hsource, hwritten, hvalues⟩ := read_dropWhile ts
  obtain ⟨hsource', hwritten', hvalues'⟩ := read_rdropWhile (ts.dropWhile isBlank)
  rw [hsource] at hsource'
  rw [hwritten] at hwritten'
  exact ⟨hsource', hwritten', hvalues'.trans hvalues⟩

end Token

end WarehouseSql
