import Mathlib.Data.List.TakeWhile
import WarehouseSql.Proofs.Template.Lexer
import WarehouseSql.Value.Literal

/-!
The forms that literals take: a keyword, a quoted text, or a number that shows a minus sign only inside parentheses.
`Value.literalForm_literal` gives every value one of them; the facts below it say how the automaton goes through each,
**from code to code** (`LiteralForm.leads`), and what its first and its last character can be.
-/

namespace WarehouseSql

open LexState

/-! ### numbers without a sign -/

/-- A digit or the decimal point. -/
def isDecimalChar (c : Char) : Bool := c.isDigit || c == '.'

/-- The end of a number: nothing, or an exponent. -/
def IsExponent (cs : List Char) : Prop :=
  cs = [] ∨ ∃ mark sign digits, cs = mark :: (sign ++ digits) ∧ (mark = 'e' ∨ mark = 'E') ∧
    (sign = [] ∨ sign = ['+'] ∨ sign = ['-']) ∧ digits ≠ [] ∧ ∀ c ∈ digits, c.isDigit = true

/-- Digits with points among them, and perhaps an exponent. -/
def IsUnsigned (cs : List Char) : Prop :=
  ∃ body tail, cs = body ++ tail ∧ body ≠ [] ∧ (∀ c ∈ body, isDecimalChar c = true) ∧ IsExponent tail

lemma isDecimalChar_of_isDigit {c : Char} (h : c.isDigit = true) : isDecimalChar c = true := by
  simp [isDecimalChar, h]

lemma isCalm_of_isDecimalChar {c : Char} (h : isDecimalChar c = true) : isCalm c = true :=
  isCalm_of_test (by decide) h

lemma completesNothing_of_isDecimalChar {c : Char} (h : isDecimalChar c = true) : completesNothing c := by
  refine ⟨?_, ?_, ?_⟩ <;> rintro rfl <;> exact absurd h (by decide)

lemma IsUnsigned.of_digits {cs : List Char} (hne : cs ≠ []) (h : ∀ c ∈ cs, isDecimalChar c = true) :
    IsUnsigned cs :=
  ⟨cs, [], by simp, hne, h, .inl rfl⟩

lemma IsUnsigned.exists_head {cs : List Char} (h : IsUnsigned cs) :
    ∃ c tail, cs = c :: tail ∧ isDecimalChar c = true := by
  obtain ⟨body, tail, rfl, hne, hbody, -⟩ := h
  cases body with
  | nil => exact absurd rfl hne
  | cons c body => exact ⟨c, body ++ tail, rfl, hbody c List.mem_cons_self⟩

lemma IsUnsigned.exists_last {cs : List Char} (h : IsUnsigned cs) :
    ∃ c, cs.getLast? = some c ∧ isDecimalChar c = true := by
  obtain ⟨body, tail, rfl, hne, hbody, htail⟩ := h
  rcases htail with rfl | ⟨mark, sign, digits, rfl, -, -, hdigits, hall⟩
  · rw [List.append_nil, List.getLast?_eq_some_getLast hne]
    exact ⟨_, rfl, hbody _ (List.getLast_mem hne)⟩
  · have heq : body ++ mark :: (sign ++ digits) = (body ++ mark :: sign) ++ digits := by simp
    rw [heq, List.getLast?_append, List.getLast?_eq_some_getLast hdigits]
    exact ⟨_, rfl, isDecimalChar_of_isDigit (hall _ (List.getLast_mem hdigits))⟩

lemma leads_minus {cs : List Char} {t : LexState} {c : Char} (hc : isDecimalChar c = true)
    (h : Leads .code (c :: cs) t) : Leads .code ('-' :: c :: cs) t :=
  .cons (fun _ _ => Template.opensMarker_of_ne (by decide) (by decide))
    (.of_isCode rfl (completesNothing_of_isDecimalChar hc) h)

lemma IsExponent.leads {cs : List Char} (h : IsExponent cs) : Leads .code cs .code := by
  rcases h with rfl | ⟨mark, sign, digits, rfl, hmark, hsign, hne, hall⟩
  · exact .nil _
  · have hdigits : Leads .code digits .code :=
      leads_of_isCalm (List.all_eq_true.2 fun c hc => isCalm_of_isDecimalChar (isDecimalChar_of_isDigit (hall c hc)))
    have hsigned : Leads .code (sign ++ digits) .code := by
      rcases hsign with rfl | rfl | rfl
      · exact hdigits
      · exact (leads_of_isCalm (by decide)).append hdigits
      · cases digits with
        | nil => exact absurd rfl hne
        | cons c digits => exact leads_minus (isDecimalChar_of_isDigit (hall c List.mem_cons_self)) hdigits
    have hcalm : isCalm mark = true := by
      rcases hmark with rfl | rfl <;> decide
    have hmarked : Leads .code [mark] .code := leads_of_isCalm (by simpa using hcalm)
    exact hmarked.append hsigned

lemma IsUnsigned.leads {cs : List Char} (h : IsUnsigned cs) : Leads .code cs .code := by
  obtain ⟨body, tail, rfl, -, hbody, htail⟩ := h
  have hcalm : body.all isCalm = true := List.all_eq_true.2 fun c hc => isCalm_of_isDecimalChar (hbody c hc)
  exact (leads_of_isCalm hcalm).append htail.leads

/-! ### forms -/

/-- The keywords among the literals. -/
def keywords : List String := ["null", "TRUE", "FALSE"]

inductive LiteralForm : List Char → Prop
  | keyword {word : String} (h : word ∈ keywords) : LiteralForm word.toList
  | quoted (content : String) : LiteralForm (Text.quoteLiteral content).toList
  | unsigned {cs : List Char} (h : IsUnsigned cs) : LiteralForm cs
  | plus {cs : List Char} (h : IsUnsigned cs) : LiteralForm ('+' :: cs)
  | minus {cs : List Char} (h : IsUnsigned cs) : LiteralForm ('(' :: '-' :: (cs ++ [')']))

/-- Whether a character can begin a literal: it completes no opening and is no blank. -/
def beginsLiteral (c : Char) : Bool := !Text.isBlank c && !(['-', '*', '$', '"'].contains c)

/-- Whether a character can end a literal: no marker may follow it, and it is no blank. -/
def endsLiteral (c : Char) : Bool := !Text.isBlank c && !Template.allowsMarker (some c)

lemma mem_of_isDecimalChar {c : Char} (h : isDecimalChar c = true) : c ∈ ".0123456789".toList := by
  have hcodes : ∀ n < 58, 48 ≤ n → Char.ofNat n ∈ ".0123456789".toList := by decide
  simp only [isDecimalChar, Bool.or_eq_true, beq_iff_eq] at h
  rcases h with h | rfl
  · simp only [Char.isDigit, Bool.and_eq_true, decide_eq_true_eq, ge_iff_le] at h
    have hlow : 48 ≤ c.toNat := UInt32.le_iff_toNat_le.1 h.1
    have hhigh : c.toNat ≤ 57 := UInt32.le_iff_toNat_le.1 h.2
    rw [← Char.ofNat_toNat c]
    exact hcodes _ (by omega) hlow
  · decide

lemma decimalChar_ends : ∀ c ∈ ".0123456789".toList,
    beginsLiteral c = true ∧ endsLiteral c = true ∧ c ≠ '\'' ∧ Template.startsName c = false := by
  have hall : ".0123456789".toList.all (fun c =>
      beginsLiteral c && (endsLiteral c && (c != '\'' && !Template.startsName c))) = true := by decide
  intro c hc
  simpa using List.all_eq_true.1 hall c hc

lemma completesNothing_of_beginsLiteral {c : Char} (h : beginsLiteral c = true) : completesNothing c := by
  refine ⟨?_, ?_, ?_⟩ <;> rintro rfl <;> exact absurd h (by decide)

lemma toList_quoteLiteral (content : String) :
    (Text.quoteLiteral content).toList = '\'' :: (Text.escapeLiteral content.toList ++ ['\'']) := by
  simp [Text.quoteLiteral]

lemma leads_escapeLiteral (cs : List Char) : Leads .single (Text.escapeLiteral cs) .single := by
  have hsingle := fun before next => Template.opensMarker_of_not_isCode (s := .single) rfl before next
  induction cs with
  | nil => exact .nil _
  | cons c cs ih =>
    unfold Text.escapeLiteral
    split_ifs with hc
    · rcases hc with rfl | rfl
      · exact .cons (fun _ _ => hsingle _ _ _)
          (.cons (fun _ _ => Template.opensMarker_of_ne (by decide) (by decide)) ih)
      · exact .cons (fun _ _ => hsingle _ _ _)
          (.cons (fun _ _ => Template.opensMarker_of_not_isCode rfl _ _ _) ih)
    · refine .cons (fun _ _ => hsingle _ _ _) ?_
      rwa [show LexState.step .single c = .single by simp_all [step]]

lemma leads_quoteLiteral (content : String) : Leads .code (Text.quoteLiteral content).toList .singleEnd := by
  rw [toList_quoteLiteral]
  refine .cons (fun _ _ => Template.opensMarker_of_ne (by decide) (by decide)) ?_
  exact (leads_escapeLiteral _).append
    (.cons (fun _ _ => Template.opensMarker_of_not_isCode rfl _ _ _) (.nil _))

namespace LiteralForm

/-- **A literal leads from code to code**, in quotes or without. -/
theorem leads {cs : List Char} (h : LiteralForm cs) :
    Leads .code cs (if cs.head? = some '\'' then .singleEnd else .code) := by
  cases h with
  | keyword h =>
    simp only [keywords, List.mem_cons, List.not_mem_nil, or_false] at h
    rcases h with rfl | rfl | rfl <;> exact leads_of_isCalm (by decide)
  | quoted content =>
    rw [if_pos (by simp [toList_quoteLiteral])]
    exact leads_quoteLiteral content
  | unsigned h =>
    obtain ⟨c, tail, rfl, hc⟩ := h.exists_head
    rw [if_neg (by simpa using (decimalChar_ends c (mem_of_isDecimalChar hc)).2.2.1)]
    exact h.leads
  | plus h =>
    have hplus : Leads .code ['+'] .code := leads_of_isCalm (by decide)
    exact hplus.append h.leads
  | @minus cs h =>
    obtain ⟨c, tail, rfl, hc⟩ := h.exists_head
    have hopen : Leads .code ['('] .code := leads_of_isCalm (by decide)
    have hinner : Leads .code ('-' :: (c :: tail)) .code := leads_minus hc h.leads
    have hclose : Leads .code [')'] .code := leads_of_isCalm (by decide)
    exact hopen.append (hinner.append hclose)

theorem exists_ends {cs : List Char} (h : LiteralForm cs) :
    ∃ first last, cs.head? = some first ∧ cs.getLast? = some last ∧ beginsLiteral first = true ∧
      endsLiteral last = true ∧ (first = '\'' ↔ last = '\'') := by
  cases h with
  | keyword h =>
    simp only [keywords, List.mem_cons, List.not_mem_nil, or_false] at h
    rcases h with rfl | rfl | rfl
    · exact ⟨'n', 'l', by decide⟩
    · exact ⟨'T', 'E', by decide⟩
    · exact ⟨'F', 'E', by decide⟩
  | quoted content =>
    have hlast : (Text.quoteLiteral content).toList.getLast? = some '\'' := by
      simp [toList_quoteLiteral, List.getLast?_cons, List.getLast?_append]
    exact ⟨'\'', '\'', by simp [toList_quoteLiteral], hlast, by decide⟩
  | unsigned h =>
    obtain ⟨c, tail, heq, hc⟩ := h.exists_head
    obtain ⟨d, hlast, hd⟩ := h.exists_last
    obtain ⟨hbegins, -, hquote, -⟩ := decimalChar_ends c (mem_of_isDecimalChar hc)
    obtain ⟨-, hends, hquote', -⟩ := decimalChar_ends d (mem_of_isDecimalChar hd)
    exact ⟨c, d, by rw [heq]; rfl, hlast, hbegins, hends, by simp [hquote, hquote']⟩
  | plus h =>
    obtain ⟨d, hlast, hd⟩ := h.exists_last
    obtain ⟨-, hends, hquote, -⟩ := decimalChar_ends d (mem_of_isDecimalChar hd)
    exact ⟨'+', d, rfl, by simp [List.getLast?_cons, hlast], by decide, hends, by simp [hquote]⟩
  | minus h => exact ⟨'(', ')', rfl, by simp [List.getLast?_cons, List.getLast?_append], by decide⟩

/-- No literal ends in a marker. -/
lemma getLast?_ne {cs : List Char} (h : LiteralForm cs) : cs.getLast? ≠ some '?' := by
  have hdigit : ∀ {unsigned : List Char}, IsUnsigned unsigned → unsigned.getLast? ≠ some '?' := by
    intro unsigned hunsigned hlast
    obtain ⟨c, hc, hdecimal⟩ := hunsigned.exists_last
    rw [hc] at hlast
    cases hlast
    exact absurd hdecimal (by decide)
  cases h with
  | keyword h =>
    have hall : ∀ word ∈ keywords, word.toList.getLast? ≠ some '?' := by decide
    exact hall _ h
  | quoted content =>
    rw [toList_quoteLiteral, ← List.cons_append, List.getLast?_concat]
    decide
  | unsigned h => exact hdigit h
  | @plus unsigned h =>
    obtain ⟨c, tail, rfl, -⟩ := h.exists_head
    rw [List.getLast?_cons_cons]
    exact hdigit h
  | minus h =>
    rw [← List.cons_append, ← List.cons_append, List.getLast?_concat]
    decide

theorem leads_of_isCode {s : LexState} (hs : s.isCode = true) {cs : List Char} (h : LiteralForm cs) :
    Leads s cs (if cs.head? = some '\'' then .singleEnd else .code) := by
  obtain ⟨first, last, hhead, -, hbegins, -⟩ := h.exists_ends
  obtain ⟨tail, rfl⟩ : ∃ tail, cs = first :: tail := by
    cases cs with
    | nil => simp at hhead
    | cons c tail => exact ⟨tail, by simp_all⟩
  exact .of_isCode hs (completesNothing_of_beginsLiteral hbegins) h.leads

/-- Only a keyword begins like a name. -/
theorem startsName_iff {cs : List Char} (h : LiteralForm cs) :
    cs.head?.any Template.startsName = true ↔ String.ofList cs ∈ keywords := by
  have hkeywords : ∀ word ∈ keywords, word.toList.head?.any Template.startsName = true := by decide
  refine ⟨fun hs => ?_, fun hk => by simpa using hkeywords _ hk⟩
  cases h with
  | keyword h => simpa using h
  | quoted content => simp [toList_quoteLiteral, Template.startsName] at hs
  | unsigned h =>
    obtain ⟨c, tail, rfl, hc⟩ := h.exists_head
    simp [(decimalChar_ends c (mem_of_isDecimalChar hc)).2.2.2] at hs
  | plus h => simp [Template.startsName] at hs
  | minus h => simp [Template.startsName] at hs

end LiteralForm

/-! ### the literals of values -/

/-- A number with at most one sign in front. -/
def IsSigned (cs : List Char) : Prop :=
  ∃ unsigned, IsUnsigned unsigned ∧ (cs = unsigned ∨ cs = '+' :: unsigned ∨ cs = '-' :: unsigned)

/-- The characters of numbers: digits, points, signs and the mark of the exponent. -/
def numberChars : List Char := ".0123456789+-eE".toList

lemma mem_numberChars_of_isDecimalChar {c : Char} (h : isDecimalChar c = true) : c ∈ numberChars := by
  have hall : ".0123456789".toList.all (numberChars.contains ·) = true := by decide
  exact List.contains_iff_mem.1 (List.all_eq_true.1 hall c (mem_of_isDecimalChar h))

lemma IsUnsigned.mem_numberChars {cs : List Char} (h : IsUnsigned cs) : ∀ c ∈ cs, c ∈ numberChars := by
  obtain ⟨body, tail, rfl, -, hbody, htail⟩ := h
  refine List.forall_mem_append.2 ⟨fun c hc => mem_numberChars_of_isDecimalChar (hbody c hc), ?_⟩
  rcases htail with rfl | ⟨mark, sign, digits, rfl, hmark, hsign, -, hdigits⟩
  · exact List.forall_mem_nil _
  · refine List.forall_mem_cons.2 ⟨?_, List.forall_mem_append.2 ⟨?_, fun c hc => ?_⟩⟩
    · rcases hmark with rfl | rfl <;> decide
    · rcases hsign with rfl | rfl | rfl
      · exact List.forall_mem_nil _
      · exact List.forall_mem_singleton.2 (by decide)
      · exact List.forall_mem_singleton.2 (by decide)
    · exact mem_numberChars_of_isDecimalChar (isDecimalChar_of_isDigit (hdigits c hc))

lemma IsSigned.mem_numberChars {cs : List Char} (h : IsSigned cs) : ∀ c ∈ cs, c ∈ numberChars := by
  obtain ⟨unsigned, hunsigned, rfl | rfl | rfl⟩ := h
  · exact hunsigned.mem_numberChars
  · exact List.forall_mem_cons.2 ⟨by decide, hunsigned.mem_numberChars⟩
  · exact List.forall_mem_cons.2 ⟨by decide, hunsigned.mem_numberChars⟩

lemma literalForm_parenthesizeNegative {number : String} (h : IsSigned number.toList) :
    LiteralForm (parenthesizeNegative number).toList := by
  obtain ⟨unsigned, hunsigned, h | h | h⟩ := h
  · obtain ⟨c, tail, rfl, hc⟩ := hunsigned.exists_head
    have hminus : c ≠ '-' := (completesNothing_of_isDecimalChar hc).1
    have heq : parenthesizeNegative number = number := by
      unfold parenthesizeNegative
      split
      · next heq => exact absurd (List.cons.inj (h.symm.trans heq)).1 hminus
      · rfl
    rw [heq, h]
    exact .unsigned hunsigned
  · have heq : parenthesizeNegative number = number := by simp [parenthesizeNegative, h]
    rw [heq, h]
    exact .plus hunsigned
  · have heq : (parenthesizeNegative number).toList = '(' :: '-' :: (unsigned ++ [')']) := by
      simp [parenthesizeNegative, h]
    rw [heq]
    exact .minus hunsigned

/-- The text of a finite number: a minus sign at most, and digits with points among them. -/
def IsPlain (cs : List Char) : Prop :=
  ∃ body, body ≠ [] ∧ (∀ c ∈ body, isDecimalChar c = true) ∧ (cs = body ∨ cs = '-' :: body)

lemma IsPlain.isSigned {cs : List Char} (h : IsPlain cs) : IsSigned cs := by
  obtain ⟨body, hne, hbody, h⟩ := h
  exact ⟨body, .of_digits hne hbody, h.imp_right .inr⟩

lemma IsPlain.append {cs : List Char} (h : IsPlain cs) {more : List Char}
    (hmore : more.all isDecimalChar = true) : IsPlain (cs ++ more) := by
  obtain ⟨body, hne, hbody, h⟩ := h
  have hall : ∀ c ∈ body ++ more, isDecimalChar c = true := fun c hc =>
    (List.mem_append.1 hc).elim (hbody c) (List.all_eq_true.1 hmore c)
  refine ⟨body ++ more, by simp [hne], hall, ?_⟩
  rcases h with rfl | rfl
  · exact .inl rfl
  · exact .inr rfl

lemma isPlain_signed {negative : Bool} {text : String} (hne : text.toList ≠ [])
    (h : ∀ c ∈ text.toList, isDecimalChar c = true) : IsPlain (Binary64.signed negative text).toList := by
  refine ⟨text.toList, hne, h, ?_⟩
  cases negative <;> simp [Binary64.signed]

lemma digits_ne_nil (n : Nat) : Decimal.digits n ≠ [] := Nat.toDigits_ne_nil

lemma isDecimalChar_of_mem_digits {n : Nat} {c : Char} (h : c ∈ Decimal.digits n) : isDecimalChar c = true :=
  isDecimalChar_of_isDigit (Nat.isDigit_of_mem_toDigits (by decide) (by decide) h)

lemma isPlain_integerText (n : Int) : IsPlain (integerText n).toList := by
  refine isPlain_signed ?_ fun c hc => isDecimalChar_of_mem_digits (n := n.natAbs) ?_
  · simpa using digits_ne_nil _
  · simpa using hc

/-- A positional decimal consists of digits and a point. -/
lemma isDecimalChar_of_mem_plain {d : Decimal} {c : Char} (h : c ∈ d.plain.toList) : isDecimalChar c = true := by
  have hzeros : ∀ {n : Nat}, c ∈ List.replicate n '0' → isDecimalChar c = true := fun hc => by
    rw [List.eq_of_mem_replicate hc]
    decide
  unfold Decimal.plain at h
  split_ifs at h
  · simp only [String.toList_ofList, List.mem_append] at h
    exact h.elim isDecimalChar_of_mem_digits hzeros
  · simp only [String.toList_ofList, List.mem_append, List.mem_cons] at h
    have hpadded : ∀ {n : Nat}, c ∈ List.replicate n '0' ++ Decimal.digits d.significand →
        isDecimalChar c = true := fun hc =>
      (List.mem_append.1 hc).elim hzeros isDecimalChar_of_mem_digits
    rcases h with h | rfl | h
    · exact hpadded (List.mem_of_mem_take h)
    · decide
    · exact hpadded (List.mem_of_mem_drop h)

lemma plain_ne_nil (d : Decimal) : d.plain.toList ≠ [] := by
  unfold Decimal.plain
  split_ifs <;> simp [digits_ne_nil]

lemma isPlain_text {number : Binary64} (h : number.isFinite = true) : IsPlain number.text.toList := by
  cases number with
  | nan => simp [Binary64.isFinite] at h
  | infinite negative => simp [Binary64.isFinite] at h
  | finite negative magnitude => exact isPlain_signed (plain_ne_nil _) fun _ => isDecimalChar_of_mem_plain

lemma isPlain_pointedText {number : Binary64} (h : number.isFinite = true) : IsPlain (pointedText number).toList := by
  simp only [pointedText]
  split_ifs
  · exact isPlain_text h
  · rw [String.toList_append]
    exact (isPlain_text h).append (by decide)

/-! ### numerals -/

lemma takeSign_eq (cs : List Char) :
    (∃ sign, (sign = [] ∨ sign = ['+'] ∨ sign = ['-']) ∧ cs = sign ++ (Numeral.takeSign cs).2) := by
  unfold Numeral.takeSign
  split
  · exact ⟨['-'], by simp, rfl⟩
  · exact ⟨['+'], by simp, rfl⟩
  · exact ⟨[], by simp, rfl⟩

lemma takeFraction_eq (cs : List Char) : ∃ point,
    cs = point ++ (Numeral.takeFraction cs).2 ∧ (∀ c ∈ point, isDecimalChar c = true) ∧
      ((Numeral.takeFraction cs).1.getD [] ≠ [] → point ≠ []) := by
  unfold Numeral.takeFraction
  split
  · next cs =>
    refine ⟨'.' :: cs.takeWhile Char.isDigit, by simp, ?_, by simp⟩
    intro c hc
    rcases List.mem_cons.1 hc with rfl | hc
    · decide
    · exact isDecimalChar_of_isDigit (List.mem_takeWhile_imp hc)
  · exact ⟨[], by simp, by simp, by simp⟩

lemma isExponent_of_readExponent? {mark : Char} {cs : List Char} {n : Int} (hmark : mark = 'e' ∨ mark = 'E')
    (h : Numeral.readExponent? cs = some n) : IsExponent (mark :: cs) := by
  obtain ⟨sign, hsign, heq⟩ := takeSign_eq cs
  simp only [Numeral.readExponent?] at h
  split at h
  · simp at h
  · next hdigits =>
    simp only [Bool.or_eq_true, List.isEmpty_iff, Bool.not_eq_true', List.all_eq_false, not_or, not_exists,
      not_and, Bool.not_eq_true, Bool.not_eq_false] at hdigits
    exact .inr ⟨mark, sign, _, congrArg (mark :: ·) heq, hmark, hsign, hdigits.1, hdigits.2⟩

/-- What reads as a numeral is a number with at most one sign in front. -/
lemma isSigned_of_read? {cs : List Char} {n : Numeral} (h : Numeral.read? cs = some n) : IsSigned cs := by
  obtain ⟨sign, hsign, heq⟩ := takeSign_eq cs
  obtain ⟨point, hpoint, hdecimal, hfraction⟩ :=
    takeFraction_eq ((Numeral.takeSign cs).2.dropWhile Char.isDigit)
  simp only [Numeral.read?] at h
  split at h
  · simp at h
  · next hdigits =>
    have htail : IsExponent (Numeral.takeFraction ((Numeral.takeSign cs).2.dropWhile Char.isDigit)).2 := by
      split at h
      · next hrest => exact .inl hrest
      · next mark more hrest =>
        split_ifs at h with hmark
        obtain ⟨e, he, -⟩ := Option.map_eq_some_iff.1 h
        rw [hrest]
        exact isExponent_of_readExponent? hmark he
    have hunsigned : (Numeral.takeSign cs).2 = ((Numeral.takeSign cs).2.takeWhile Char.isDigit ++ point) ++
        (Numeral.takeFraction ((Numeral.takeSign cs).2.dropWhile Char.isDigit)).2 := by
      rw [List.append_assoc, ← hpoint, List.takeWhile_append_dropWhile]
    refine ⟨(Numeral.takeSign cs).2, ⟨_, _, hunsigned, ?_, ?_, htail⟩, ?_⟩
    · simp only [Bool.and_eq_true, List.isEmpty_iff, not_and] at hdigits
      intro hnil
      obtain ⟨hwhole, hnil⟩ := List.append_eq_nil_iff.1 hnil
      exact hfraction (hdigits hwhole) hnil
    · intro c hc
      exact (List.mem_append.1 hc).elim (fun hc => isDecimalChar_of_isDigit (List.mem_takeWhile_imp hc)) (hdecimal c)
    · rcases hsign with rfl | rfl | rfl
      · exact .inl heq
      · exact .inr (.inl heq)
      · exact .inr (.inr heq)

/-- **Every value has a literal of one of the forms**, whatever it is declared to be. -/
theorem Value.literalForm_literal (v : Value) (declared : Option BindType) :
    LiteralForm (v.literal declared).toList := by
  have hkeyword : ∀ {word : String}, word ∈ keywords → LiteralForm word.toList := .keyword
  have hboolean : ∀ flag, LiteralForm (booleanKeyword flag).toList := by
    intro flag
    cases flag <;> exact hkeyword (by decide)
  have hnumeral : ∀ content : String, LiteralForm (numeralOrQuoted content).toList := by
    intro content
    unfold numeralOrQuoted
    split_ifs with h
    · obtain ⟨n, hn⟩ := Option.isSome_iff_exists.1 h
      refine literalForm_parenthesizeNegative ?_
      simpa [Text.trim] using isSigned_of_read? hn
    · exact .quoted _
  unfold Value.literal
  split
  · exact hkeyword (by decide)
  · exact hkeyword (by decide)
  · exact hboolean _
  · exact hboolean _
  · exact literalForm_parenthesizeNegative (isPlain_integerText _).isSigned
  · split_ifs with h
    · exact literalForm_parenthesizeNegative (isPlain_pointedText h).isSigned
    · exact .quoted _
  · exact .quoted _
  · exact hnumeral _

/-! ### texts in quotes -/

lemma Text.escapeLiteral_injective : Function.Injective Text.escapeLiteral := by
  intro as
  induction as with
  | nil =>
    intro bs h
    cases bs with
    | nil => rfl
    | cons b bs =>
      rw [escapeLiteral, escapeLiteral] at h
      split_ifs at h
  | cons a as ih =>
    intro bs h
    cases bs with
    | nil =>
      rw [escapeLiteral, escapeLiteral] at h
      split_ifs at h
    | cons b bs =>
      rw [escapeLiteral, escapeLiteral] at h
      -- a character that is doubled in one text is doubled in the other
      split_ifs at h with ha hb hb
      · obtain ⟨rfl, hrest⟩ := List.cons.inj h
        rw [ih (List.cons.inj hrest).2]
      · exact absurd ((List.cons.inj h).1 ▸ ha) hb
      · exact absurd ((List.cons.inj h).1 ▸ hb) ha
      · obtain ⟨rfl, hrest⟩ := List.cons.inj h
        rw [ih hrest]

theorem Text.quoteLiteral_injective : Function.Injective Text.quoteLiteral := by
  intro a b h
  have hchars := congrArg String.toList h
  rw [toList_quoteLiteral, toList_quoteLiteral] at hchars
  exact String.toList_inj.1 (Text.escapeLiteral_injective (List.append_cancel_right (List.cons.inj hchars).2))

/-- A numeral is the one text that stands without quotes. -/
lemma numeralOrQuoted_eq_quoteLiteral_iff {a b : String} :
    numeralOrQuoted a = Text.quoteLiteral b ↔ isNumeral a = false ∧ a = b := by
  rw [numeralOrQuoted]
  split_ifs with hnumeral
  · simp only [hnumeral, Bool.true_eq_false, false_and, iff_false]
    intro h
    obtain ⟨numeral, hread⟩ := Option.isSome_iff_exists.1 hnumeral
    have hquote : '\'' ∈ (parenthesizeNegative (Text.trim a)).toList := by
      rw [h, toList_quoteLiteral]
      exact List.mem_cons_self
    have hmem : '\'' ∈ (Text.trim a).toList := by
      rw [parenthesizeNegative] at hquote
      split at hquote
      · simpa using hquote
      · exact hquote
    rw [Text.trim, String.toList_ofList] at hmem
    exact absurd ((isSigned_of_read? hread).mem_numberChars _ hmem) (by decide)
  · rw [Text.quoteLiteral_injective.eq_iff]
    simp [hnumeral]

end WarehouseSql
