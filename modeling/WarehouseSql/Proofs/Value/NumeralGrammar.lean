import Mathlib.Data.List.Chain
import WarehouseSql.Proofs.Template.Conditions
import WarehouseSql.Proofs.Text.Utf8
import WarehouseSql.Proofs.Value.Literal

/-!
The grammar of numerals: a sign or none, digits with a point among them or none, an exponent or none
(`Numeral.IsWritten`).  **A text is a numeral exactly if one of the grammar stands in it between white space**, which is
also what a scan of its UTF-8 finds byte by byte, **and a text whose literal is not quoted opens nothing in SQL**
(`isNumeral_iff`).
-/

namespace WarehouseSql

namespace Numeral

open Text (utf8 utf8_nil getElem?_utf8 head?_utf8_eq_iff length_utf8_append_sub length_utf8_eq_zero_iff
  length_utf8_append_eq_iff length_utf8_concat)

/-! ### the grammar -/

/-- A row of ASCII digits. -/
def IsDigits (cs : List Char) : Prop := cs ≠ [] ∧ ∀ c ∈ cs, c.isDigit = true

def IsSign (cs : List Char) : Prop := cs = [] ∨ cs = ['+'] ∨ cs = ['-']

/-- Digits with at most one point among them. -/
inductive IsMantissa : List Char → Prop
  | whole {digits : List Char} (h : IsDigits digits) : IsMantissa digits
  | pointed {digits fraction : List Char} (h : IsDigits digits) (hfraction : ∀ c ∈ fraction, c.isDigit = true) :
      IsMantissa (digits ++ '.' :: fraction)
  | fraction {fraction : List Char} (h : IsDigits fraction) : IsMantissa ('.' :: fraction)

/-- A numeral as it is written. -/
def IsWritten (cs : List Char) : Prop :=
  ∃ sign mantissa exponent, cs = sign ++ (mantissa ++ exponent) ∧
    IsSign sign ∧ IsMantissa mantissa ∧ IsExponent exponent

/-! ### reading -/

lemma takeWhile_isDigit_append {digits rest : List Char} (h : ∀ c ∈ digits, c.isDigit = true)
    (hrest : ∀ c ∈ rest.head?, c.isDigit = false) :
    (digits ++ rest).takeWhile Char.isDigit = digits ∧ (digits ++ rest).dropWhile Char.isDigit = rest := by
  rw [List.takeWhile_append_of_pos h, List.dropWhile_append_of_pos h]
  cases rest with
  | nil => simp
  | cons c rest => simp [hrest c rfl]

lemma takeSign_append {sign rest : List Char} (hsign : IsSign sign) (hrest : ∀ c ∈ rest.head?, c ≠ '+' ∧ c ≠ '-') :
    (takeSign (sign ++ rest)).2 = rest := by
  rcases hsign with rfl | rfl | rfl
  · cases rest with
    | nil => rfl
    | cons c rest =>
      obtain ⟨hplus, hminus⟩ := hrest c rfl
      simp [takeSign, hplus, hminus]
  · rfl
  · rfl

lemma ne_of_isDigit {c : Char} (h : c.isDigit = true) : (c ≠ '+' ∧ c ≠ '-') ∧ c ≠ '.' := by
  refine ⟨⟨?_, ?_⟩, ?_⟩ <;> rintro rfl <;> exact absurd h (by decide)

lemma IsDigits.head? {digits : List Char} (h : IsDigits digits) (rest : List Char) :
    ∀ c ∈ (digits ++ rest).head?, c.isDigit = true := by
  cases digits with
  | nil => exact absurd rfl h.1
  | cons first digits =>
    rintro c hc
    obtain rfl : first = c := Option.some.inj hc
    exact h.2 first List.mem_cons_self

lemma isSome_readExponent?_iff {cs : List Char} : (readExponent? cs).isSome = true ↔ IsDigits (takeSign cs).2 := by
  simp only [readExponent?]
  split
  · next h => simpa [IsDigits, imp_iff_not_or] using h
  · next h => simpa [IsDigits] using h

lemma isExponent_cons_iff {mark : Char} {cs : List Char} :
    IsExponent (mark :: cs) ↔ (mark = 'e' ∨ mark = 'E') ∧ IsDigits (takeSign cs).2 := by
  constructor
  · rintro (hnil | ⟨mark, sign, digits, heq, hmark, hsign, hdigits⟩)
    · cases hnil
    · obtain ⟨rfl, rfl⟩ := List.cons.inj heq
      rw [takeSign_append hsign fun c hc => (ne_of_isDigit (IsDigits.head? hdigits [] c (by simpa using hc))).1]
      exact ⟨hmark, hdigits⟩
  · rintro ⟨hmark, hdigits⟩
    obtain ⟨sign, hsign, hcs⟩ := takeSign_eq cs
    exact .inr ⟨mark, sign, _, congrArg (mark :: ·) hcs, hmark, hsign, hdigits⟩

/-- What remains after the mantissa ends the numeral. -/
lemma isSome_read?_iff_isExponent {cs : List Char} :
    (read? cs).isSome = true ↔
      ((takeSign cs).2.takeWhile Char.isDigit ≠ [] ∨
        (takeFraction ((takeSign cs).2.dropWhile Char.isDigit)).1.getD [] ≠ []) ∧
      IsExponent (takeFraction ((takeSign cs).2.dropWhile Char.isDigit)).2 := by
  simp only [read?]
  split
  · next h => simp_all
  · next h =>
    have hdigits : (takeSign cs).2.takeWhile Char.isDigit ≠ [] ∨
        (takeFraction ((takeSign cs).2.dropWhile Char.isDigit)).1.getD [] ≠ [] := by
      simpa [imp_iff_not_or] using h
    rw [and_iff_right hdigits]
    split
    · next hrest => simp [hrest, IsExponent]
    · next mark more hrest =>
      rw [hrest, isExponent_cons_iff]
      split_ifs with hmark
      · rw [Option.isSome_map, isSome_readExponent?_iff, and_iff_right hmark]
      · simp [hmark]

lemma exists_isMantissa {cs : List Char}
    (h : cs.takeWhile Char.isDigit ≠ [] ∨ (takeFraction (cs.dropWhile Char.isDigit)).1.getD [] ≠ []) :
    ∃ mantissa, cs = mantissa ++ (takeFraction (cs.dropWhile Char.isDigit)).2 ∧ IsMantissa mantissa := by
  have hcs := List.takeWhile_append_dropWhile (p := Char.isDigit) (l := cs)
  have hwhole : ∀ c ∈ cs.takeWhile Char.isDigit, c.isDigit = true := fun c => List.mem_takeWhile_imp
  unfold takeFraction at h ⊢
  split at h
  · next more hrest =>
    have hmore := List.takeWhile_append_dropWhile (p := Char.isDigit) (l := more)
    have hfraction : ∀ c ∈ more.takeWhile Char.isDigit, c.isDigit = true := fun c => List.mem_takeWhile_imp
    have hpointed : cs = (cs.takeWhile Char.isDigit ++ '.' :: more.takeWhile Char.isDigit)
        ++ more.dropWhile Char.isDigit := by
      rw [List.append_assoc, List.cons_append, hmore, ← hrest, hcs]
    by_cases hnil : cs.takeWhile Char.isDigit = []
    · rw [hnil] at hpointed
      exact ⟨_, hpointed, .fraction ⟨h.resolve_left (not_not_intro hnil), hfraction⟩⟩
    · exact ⟨_, hpointed, .pointed ⟨hnil, hwhole⟩ hfraction⟩
  · exact ⟨_, hcs.symm, .whole ⟨h.resolve_right (not_not_intro rfl), hwhole⟩⟩

lemma takeFraction_of_ne {cs : List Char} (h : cs.head? ≠ some '.') : takeFraction cs = (none, cs) := by
  unfold takeFraction
  split
  · exact absurd rfl h
  · rfl

lemma takeFraction_append {mantissa exponent : List Char} (h : IsMantissa mantissa)
    (hexponent : ∀ c ∈ exponent.head?, c.isDigit = false ∧ c ≠ '.') :
    ((mantissa ++ exponent).takeWhile Char.isDigit ≠ [] ∨
        (takeFraction ((mantissa ++ exponent).dropWhile Char.isDigit)).1.getD [] ≠ []) ∧
      (takeFraction ((mantissa ++ exponent).dropWhile Char.isDigit)).2 = exponent := by
  have hdigit : ∀ c ∈ exponent.head?, c.isDigit = false := fun c hc => (hexponent c hc).1
  cases h with
  | whole h =>
    obtain ⟨htake, hdrop⟩ := takeWhile_isDigit_append h.2 hdigit
    rw [htake, hdrop, takeFraction_of_ne fun hpoint => (hexponent '.' hpoint).2 rfl]
    exact ⟨.inl h.1, rfl⟩
  | @pointed digits fraction h hfraction =>
    obtain ⟨htake, hdrop⟩ := takeWhile_isDigit_append hfraction hdigit
    have hpoint : ∀ c ∈ ('.' :: (fraction ++ exponent)).head?, c.isDigit = false := by simp
    obtain ⟨htake', hdrop'⟩ := takeWhile_isDigit_append h.2 hpoint
    rw [List.append_assoc, List.cons_append, htake', hdrop']
    exact ⟨.inl h.1, hdrop⟩
  | @fraction fraction h =>
    obtain ⟨htake, hdrop⟩ := takeWhile_isDigit_append h.2 hdigit
    have htaken : takeFraction ('.' :: (fraction ++ exponent)) = (some fraction, exponent) := by
      rw [takeFraction, htake, hdrop]
    have hpoint : ('.' :: (fraction ++ exponent)).dropWhile Char.isDigit = '.' :: (fraction ++ exponent) := rfl
    rw [List.cons_append, hpoint, htaken]
    exact ⟨.inr h.1, rfl⟩

lemma IsMantissa.head? {mantissa : List Char} (h : IsMantissa mantissa) (rest : List Char) :
    ∀ c ∈ (mantissa ++ rest).head?, c ≠ '+' ∧ c ≠ '-' := by
  cases h with
  | whole h => exact fun c hc => (ne_of_isDigit (h.head? rest c hc)).1
  | pointed h hfraction =>
    rw [List.append_assoc]
    exact fun c hc => (ne_of_isDigit (h.head? _ c hc)).1
  | fraction h =>
    rintro _ ⟨⟩
    decide

lemma head?_of_isExponent {exponent : List Char} (h : IsExponent exponent) :
    ∀ c ∈ exponent.head?, c.isDigit = false ∧ c ≠ '.' := by
  rcases h with rfl | ⟨mark, sign, digits, rfl, rfl | rfl, -⟩
  · rintro _ ⟨⟩
  · rintro _ ⟨⟩
    decide
  · rintro _ ⟨⟩
    decide

/-- **What is read as a numeral is what the grammar allows.** -/
lemma isSome_read?_iff {cs : List Char} : (read? cs).isSome = true ↔ IsWritten cs := by
  rw [isSome_read?_iff_isExponent]
  constructor
  · rintro ⟨hdigits, hexponent⟩
    obtain ⟨sign, hsign, hcs⟩ := takeSign_eq cs
    obtain ⟨mantissa, hunsigned, hmantissa⟩ := exists_isMantissa hdigits
    refine ⟨sign, mantissa, _, ?_, hsign, hmantissa, hexponent⟩
    rw [← hunsigned]
    exact hcs
  · rintro ⟨sign, mantissa, exponent, rfl, hsign, hmantissa, hexponent⟩
    rw [takeSign_append hsign (hmantissa.head? exponent)]
    obtain ⟨hdigits, hrest⟩ := takeFraction_append hmantissa (head?_of_isExponent hexponent)
    exact ⟨hdigits, hrest.symm ▸ hexponent⟩

/-! ### scanning bytes -/

def isDigitByte (b : UInt8) : Bool := '0'.toUInt8 ≤ b && b ≤ '9'.toUInt8

/-- The position after the digits from a position on. -/
def digitsEnd (bytes : List UInt8) (i : Nat) : Nat :=
  if _h : bytes[i]?.any isDigitByte = true then digitsEnd bytes (i + 1) else i
termination_by bytes.length - i
decreasing_by
  obtain ⟨b, hb, -⟩ := (Option.any_eq_true _ _).1 _h
  obtain ⟨hi, -⟩ := List.getElem?_eq_some_iff.1 hb
  omega

/-- The position after a sign, if one stands at a position. -/
def signEnd (bytes : List UInt8) (i : Nat) : Nat :=
  if bytes[i]? = some '+'.toUInt8 ∨ bytes[i]? = some '-'.toUInt8 then i + 1 else i

/-- Whether bytes end at a position, or in an exponent that stands there. -/
def endsAt (bytes : List UInt8) (i : Nat) : Bool :=
  if bytes[i]? = some 'e'.toUInt8 ∨ bytes[i]? = some 'E'.toUInt8 then
    let digits := signEnd bytes (i + 1)
    let stop := digitsEnd bytes digits
    stop != digits && stop == bytes.length
  else i == bytes.length

/-- Whether bytes are a numeral, scanned once from the first to the last. -/
def scan (bytes : List UInt8) : Bool :=
  let start := signEnd bytes 0
  let whole := digitsEnd bytes start
  if bytes[whole]? = some '.'.toUInt8 then
    let fraction := digitsEnd bytes (whole + 1)
    whole - start + (fraction - (whole + 1)) != 0 && endsAt bytes fraction
  else whole - start != 0 && endsAt bytes whole

lemma isDigit_iff {c : Char} : c.isDigit = true ↔ 48 ≤ c.toNat ∧ c.toNat ≤ 57 := by
  rw [Char.isDigit, Bool.and_eq_true, decide_eq_true_eq, decide_eq_true_eq]
  exact and_congr UInt32.le_iff_toNat_le UInt32.le_iff_toNat_le

lemma isDigitByte_iff {b : UInt8} : isDigitByte b = true ↔ 48 ≤ b.toNat ∧ b.toNat ≤ 57 := by
  rw [isDigitByte, Bool.and_eq_true, decide_eq_true_eq, decide_eq_true_eq]
  exact and_congr UInt8.le_iff_toNat_le UInt8.le_iff_toNat_le

lemma isAsciiTest_isDigit : Text.IsAsciiTest Char.isDigit := fun _ h => (isDigit_iff.1 h).2.trans_lt (by decide)

lemma isDigitByte_eq : isDigitByte = fun b => (Text.asChar b).isDigit := by
  funext b
  rw [Bool.eq_iff_iff, isDigitByte_iff, isDigit_iff, Text.toNat_asChar]

lemma digitsEnd_eq_runEnd (bytes : List UInt8) (i : Nat) : digitsEnd bytes i = Text.runEnd Char.isDigit bytes i := by
  fun_induction digitsEnd bytes i with
  | case1 i h ih =>
    rw [isDigitByte_eq] at h
    rw [ih, Text.runEnd.eq_def _ _ i, dif_pos h]
  | case2 i h =>
    rw [isDigitByte_eq] at h
    rw [Text.runEnd, dif_neg h]

lemma digitsEnd_utf8 (done rest : List Char) :
    digitsEnd (utf8 (done ++ rest)) (utf8 done).length = (utf8 (done ++ rest.takeWhile Char.isDigit)).length := by
  rw [digitsEnd_eq_runEnd, Text.runEnd_utf8 isAsciiTest_isDigit]

lemma exists_signEnd_utf8 (done rest : List Char) : ∃ sign, rest = sign ++ (takeSign rest).2 ∧
    signEnd (utf8 (done ++ rest)) (utf8 done).length = (utf8 (done ++ sign)).length := by
  simp only [signEnd, getElem?_utf8, head?_utf8_eq_iff (d := '+') (by decide), head?_utf8_eq_iff (d := '-') (by decide)]
  unfold takeSign
  split
  · exact ⟨['-'], rfl, by rw [length_utf8_concat (by decide), if_pos (by simp)]⟩
  · exact ⟨['+'], rfl, by rw [length_utf8_concat (by decide), if_pos (by simp)]⟩
  · next hminus hplus =>
    refine ⟨[], rfl, ?_⟩
    rw [if_neg, List.append_nil]
    rintro (hhead | hhead)
    · obtain ⟨more, hmore⟩ := List.head?_eq_some_iff.1 hhead
      exact hplus more hmore
    · obtain ⟨more, hmore⟩ := List.head?_eq_some_iff.1 hhead
      exact hminus more hmore

lemma isDigits_iff {cs : List Char} :
    IsDigits cs ↔ cs.takeWhile Char.isDigit ≠ [] ∧ cs.dropWhile Char.isDigit = [] := by
  rw [List.dropWhile_eq_nil_iff]
  refine and_congr_left fun hall => ?_
  rw [List.takeWhile_eq_self_iff.2 hall]

lemma endsAt_utf8 (done rest : List Char) :
    endsAt (utf8 (done ++ rest)) (utf8 done).length = true ↔ IsExponent rest := by
  simp only [endsAt, getElem?_utf8, head?_utf8_eq_iff (d := 'e') (by decide), head?_utf8_eq_iff (d := 'E') (by decide)]
  cases rest with
  | nil => simp [IsExponent]
  | cons mark more =>
    simp only [List.head?_cons, Option.some_inj]
    rw [isExponent_cons_iff, isDigits_iff]
    split_ifs with hmark
    · have hascii : mark.toNat < 128 := by
        rcases hmark with rfl | rfl <;> decide
      obtain ⟨sign, hmore, hsign⟩ := exists_signEnd_utf8 (done ++ [mark]) more
      rw [length_utf8_concat hascii, ← List.append_cons] at hsign
      generalize (takeSign more).2 = digits at hmore ⊢
      subst hmore
      -- the digits behind the sign have to reach to the end
      have hstop := digitsEnd_utf8 (done ++ [mark] ++ sign) digits
      have hrest := List.takeWhile_append_dropWhile (p := Char.isDigit) (l := digits)
      have hbytes : done ++ mark :: (sign ++ digits) = done ++ [mark] ++ sign ++ digits := by simp
      have hend := length_utf8_append_eq_iff (done ++ [mark] ++ sign ++ digits.takeWhile Char.isDigit)
        (digits.dropWhile Char.isDigit)
      rw [List.append_assoc, hrest, eq_comm] at hend
      rw [hsign, hbytes, hstop, Bool.and_eq_true, bne_iff_ne, beq_iff_eq, ne_eq, length_utf8_append_eq_iff, hend,
        and_iff_right hmark]
    · have hend := length_utf8_append_eq_iff done (mark :: more)
      rw [eq_comm] at hend
      rw [beq_iff_eq, hend]
      exact iff_of_false (List.cons_ne_nil _ _) fun h => hmark h.1

/-- **The scan finds the numerals.** -/
lemma scan_utf8 (cs : List Char) : scan (utf8 cs) = (read? cs).isSome := by
  rw [Bool.eq_iff_iff, isSome_read?_iff_isExponent]
  obtain ⟨sign, hcs, hsign⟩ := exists_signEnd_utf8 [] cs
  generalize (takeSign cs).2 = unsigned at hcs ⊢
  subst hcs
  have hwhole := digitsEnd_utf8 sign unsigned
  have hunsigned := List.takeWhile_append_dropWhile (p := Char.isDigit) (l := unsigned)
  generalize unsigned.takeWhile Char.isDigit = whole at hwhole hunsigned ⊢
  generalize unsigned.dropWhile Char.isDigit = after at hunsigned ⊢
  subst hunsigned
  rw [List.nil_append, List.nil_append, utf8_nil, List.length_nil, ← List.append_assoc] at hsign
  rw [← List.append_assoc] at hwhole ⊢
  simp only [scan, hsign, hwhole, getElem?_utf8, head?_utf8_eq_iff (d := '.') (by decide)]
  by_cases hpoint : after.head? = some '.'
  · rw [if_pos hpoint]
    obtain ⟨more, rfl⟩ := List.head?_eq_some_iff.1 hpoint
    have htaken : takeFraction ('.' :: more) = (some (more.takeWhile Char.isDigit), more.dropWhile Char.isDigit) := rfl
    have hmore := List.takeWhile_append_dropWhile (p := Char.isDigit) (l := more)
    have hfraction := digitsEnd_utf8 (sign ++ whole ++ ['.']) more
    rw [← List.append_cons] at hfraction
    rw [htaken, ← length_utf8_concat (c := '.') (by decide), hfraction, length_utf8_append_sub, length_utf8_append_sub]
    generalize more.takeWhile Char.isDigit = fraction at hmore ⊢
    generalize more.dropWhile Char.isDigit = rest at hmore ⊢
    subst hmore
    rw [List.append_cons, ← List.append_assoc, Bool.and_eq_true, endsAt_utf8, bne_iff_ne, ne_eq, Nat.add_eq_zero_iff,
      length_utf8_eq_zero_iff, length_utf8_eq_zero_iff, not_and_or]
    rfl
  · rw [if_neg hpoint, takeFraction_of_ne hpoint, length_utf8_append_sub, Bool.and_eq_true, endsAt_utf8, bne_iff_ne,
      ne_eq, length_utf8_eq_zero_iff]
    simp

end Numeral

/-! ### white space around numerals -/

lemma Text.exists_padding (cs : List Char) : ∃ before after, cs = before ++ (trimChars cs ++ after) ∧
    before.all isBlank = true ∧ after.all isBlank = true := by
  obtain ⟨after, hafter, hblank⟩ := trimEndChars_append_blanks (trimStartChars cs)
  refine ⟨cs.takeWhile isBlank, after, ?_, ?_, hblank⟩
  · rw [trimChars, hafter, trimStartChars, List.takeWhile_append_dropWhile]
  · exact List.all_eq_true.2 fun c => List.mem_takeWhile_imp

namespace Numeral.IsWritten

lemma isSigned {cs : List Char} (h : IsWritten cs) : IsSigned cs := by
  obtain ⟨n, hn⟩ := Option.isSome_iff_exists.1 (isSome_read?_iff.2 h)
  exact isSigned_of_read? hn

lemma ne_nil {cs : List Char} (h : IsWritten cs) : cs ≠ [] := by
  rintro rfl
  exact absurd (isSome_read?_iff.2 h) (by decide)

lemma isTrimmed {cs : List Char} (h : IsWritten cs) : Token.IsTrimmed cs := by
  have hall : numberChars.all (fun c => !Text.isBlank c) = true := by decide
  have hblank : ∀ c ∈ numberChars, Text.isBlank c = false := fun c hc => by simpa using List.all_eq_true.1 hall c hc
  refine ⟨cs.head h.ne_nil, cs.getLast h.ne_nil, List.head?_eq_some_head _, List.getLast?_eq_some_getLast _, ?_, ?_⟩
  · exact hblank _ (h.isSigned.mem_numberChars _ (List.head_mem _))
  · exact hblank _ (h.isSigned.mem_numberChars _ (List.getLast_mem _))

end Numeral.IsWritten

lemma isNumeral_iff_isWritten {content : String} :
    isNumeral content = true ↔ Numeral.IsWritten (Text.trimChars content.toList) := Numeral.isSome_read?_iff

/-! ### literals without quotes -/

/-- Whether a character is no white space and opens neither quotes nor a placeholder nor, with its like, a comment. -/
def isBareChar (c : Char) : Bool := !Text.isBlank c && !(['\'', '"', '?', ':', '/', '*', '$'].contains c)

/-- A text that opens nothing in SQL, and whose first character joins none before it to a comment. -/
structure IsBare (cs : List Char) : Prop where
  plain : ∀ c ∈ cs, isBareChar c = true
  dashes : ¬ ['-', '-'] <:+: cs
  first : cs.head? ≠ some '-'

def NotBothDashes (c d : Char) : Prop := ¬ (c = '-' ∧ d = '-')

lemma not_infix_of_isChain {cs : List Char} (h : cs.IsChain NotBothDashes) : ¬ ['-', '-'] <:+: cs := by
  intro hinfix
  have hpair := h.infix hinfix
  rw [List.isChain_pair] at hpair
  exact hpair ⟨rfl, rfl⟩

/-- No two dashes meet behind characters other than dashes. -/
lemma isChain_append {bs : List Char} (as : List Char) (h : '-' ∉ as) (hbs : bs.IsChain NotBothDashes) :
    (as ++ bs).IsChain NotBothDashes := by
  induction as with
  | nil => exact hbs
  | cons a as ih =>
    rw [List.mem_cons, not_or] at h
    obtain ⟨ha, has⟩ := h
    exact List.isChain_cons.2 ⟨fun _ _ hdashes => ha hdashes.1.symm, ih has⟩

lemma isChain_sign {sign cs : List Char} (hsign : Numeral.IsSign sign) (hhead : ∀ c ∈ cs.head?, c ≠ '-')
    (hcs : cs.IsChain NotBothDashes) : (sign ++ cs).IsChain NotBothDashes := by
  rcases hsign with rfl | rfl | rfl
  · exact hcs
  · exact isChain_append ['+'] (by decide) hcs
  · exact List.isChain_cons.2 ⟨fun c hc hdashes => hhead c hc hdashes.2, hcs⟩

lemma IsExponent.isChain {cs : List Char} (h : IsExponent cs) : cs.IsChain NotBothDashes := by
  rcases h with rfl | ⟨mark, sign, digits, rfl, hmark, hsign, hne, hdigits⟩
  · exact .nil
  · have hminus : '-' ∉ digits := fun hmem => absurd (hdigits _ hmem) (by decide)
    have hchain : digits.IsChain NotBothDashes := by simpa using isChain_append digits hminus .nil
    refine isChain_append [mark] ?_ (isChain_sign hsign (fun c hc => ?_) hchain)
    · rcases hmark with rfl | rfl <;> decide
    · rintro rfl
      exact hminus (List.mem_of_mem_head? hc)

lemma Numeral.IsMantissa.not_mem {cs : List Char} (h : IsMantissa cs) : '-' ∉ cs := by
  have hdigit : Char.isDigit '-' ≠ true := by decide
  cases h with
  | whole h => exact fun hmem => hdigit (h.2 _ hmem)
  | pointed h hfraction =>
    intro hmem
    rcases List.mem_append.1 hmem with hmem | hmem
    · exact hdigit (h.2 _ hmem)
    · exact hdigit (hfraction _ ((List.mem_cons.1 hmem).resolve_left (by decide)))
  | fraction h => exact fun hmem => hdigit (h.2 _ ((List.mem_cons.1 hmem).resolve_left (by decide)))

lemma Numeral.IsWritten.isChain {cs : List Char} (h : IsWritten cs) : cs.IsChain NotBothDashes := by
  obtain ⟨sign, mantissa, exponent, rfl, hsign, hmantissa, hexponent⟩ := h
  exact isChain_sign hsign (fun c hc => (hmantissa.head? exponent c hc).2)
    (isChain_append mantissa hmantissa.not_mem hexponent.isChain)

/-- A numeral is bare once it stands in parentheses if a minus sign is in front. -/
lemma isBare_parenthesizeNegative {number : String} (h : Numeral.IsWritten number.toList) :
    IsBare (parenthesizeNegative number).toList ∧
      (parenthesizeNegative number).toList ∈ [number.toList, '(' :: (number.toList ++ [')'])] := by
  have hplain : ('(' :: (numberChars ++ [')'])).all isBareChar = true := by decide
  have hchars := h.isSigned.mem_numberChars
  have hshown : (parenthesizeNegative number).toList = number.toList ∧ number.toList.head? ≠ some '-' ∨
      (parenthesizeNegative number).toList = '(' :: (number.toList ++ [')']) := by
    unfold parenthesizeNegative
    split
    · exact .inr (by simp)
    · next hminus =>
      refine .inl ⟨rfl, fun hhead => ?_⟩
      obtain ⟨more, hmore⟩ := List.head?_eq_some_iff.1 hhead
      exact hminus more hmore
  rcases hshown with ⟨hshown, hminus⟩ | hshown
  · rw [hshown]
    have hmem : ∀ c ∈ number.toList, c ∈ '(' :: (numberChars ++ [')']) := fun c hc =>
      List.mem_cons_of_mem _ (List.mem_append_left _ (hchars c hc))
    refine ⟨⟨fun c hc => List.all_eq_true.1 hplain c (hmem c hc), not_infix_of_isChain h.isChain, hminus⟩, ?_⟩
    exact List.mem_cons_self
  · rw [hshown]
    have hmem : ∀ c ∈ '(' :: (number.toList ++ [')']), c ∈ '(' :: (numberChars ++ [')']) := by
      refine List.forall_mem_cons.2 ⟨List.mem_cons_self, fun c hc => List.mem_cons_of_mem _ ?_⟩
      exact (List.mem_append.1 hc).elim (fun hc => List.mem_append_left _ (hchars c hc)) (List.mem_append_right _)
    -- the closing parenthesis keeps dashes apart, and so does the opening one
    have hclosed : (number.toList ++ [')']).IsChain NotBothDashes := by
      refine List.isChain_append.2 ⟨h.isChain, .singleton _, ?_⟩
      rintro c - _ ⟨⟩ hdashes
      exact absurd hdashes.2 (by decide)
    have hchain := isChain_append ['('] (by decide) hclosed
    exact ⟨⟨fun c hc => List.all_eq_true.1 hplain c (hmem c hc), not_infix_of_isChain hchain, by simp⟩, by simp⟩

/-- A literal of a text that is not quoted: a keyword that its type asks for, or the numeral between its white space, in
parentheses if that begins with a minus sign. -/
structure StandsBare (content literal : String) : Prop where
  bare : IsBare literal.toList
  shown : literal ∈ keywords ∨ isNumeral content = true ∧
    literal.toList ∈ [Text.trimChars content.toList, '(' :: (Text.trimChars content.toList ++ [')'])]

lemma standsBare_keyword (content : String) {word : String} (h : word ∈ keywords) : StandsBare content word := by
  have hplain : keywords.all (fun word => word.toList.all isBareChar) = true := by decide
  have hdashes : ∀ word ∈ keywords, ¬ ['-', '-'] <:+: word.toList ∧ word.toList.head? ≠ some '-' := by decide
  exact ⟨⟨List.all_eq_true.1 (List.all_eq_true.1 hplain word h), (hdashes word h).1, (hdashes word h).2⟩, .inl h⟩

lemma numeralOrQuoted_cases (content : String) :
    numeralOrQuoted content = Text.quoteLiteral content ∨ StandsBare content (numeralOrQuoted content) := by
  rw [numeralOrQuoted]
  split_ifs with h
  · have hwritten : Numeral.IsWritten (Text.trim content).toList := by
      rw [Text.trim, String.toList_ofList]
      exact isNumeral_iff_isWritten.1 h
    obtain ⟨hbare, hshown⟩ := isBare_parenthesizeNegative hwritten
    rw [Text.trim, String.toList_ofList] at hshown
    exact .inr ⟨hbare, .inr ⟨h, hshown⟩⟩
  · exact .inl rfl

/-- The literal of a text is quoted or bare, whatever it is declared to be. -/
lemma literal_text_cases (content : String) (declared : Option BindType) :
    Value.literal (.text content) declared = Text.quoteLiteral content ∨
      StandsBare content (Value.literal (.text content) declared) := by
  have hboolean : ∀ flag, booleanKeyword flag ∈ keywords := by decide
  have hnull : "null" ∈ keywords := by decide
  cases declared with
  | none => exact numeralOrQuoted_cases content
  | some type =>
    cases type with
    | text => exact .inl rfl
    | integer => exact numeralOrQuoted_cases content
    | float => exact numeralOrQuoted_cases content
    | boolean => exact .inr (standsBare_keyword content (hboolean _))
    | null => exact .inr (standsBare_keyword content hnull)

/-- **A numeral is what the grammar writes between white space**, which a scan of the bytes between it finds too, **and
the literal of a text is quoted or bare.** -/
theorem isNumeral_iff (content : String) :
    (isNumeral content = true ↔ ∃ before number after, content.toList = before ++ (number ++ after) ∧
      before.all Text.isBlank = true ∧ after.all Text.isBlank = true ∧ Numeral.IsWritten number) ∧
    isNumeral content = Numeral.scan (Text.trim content).toUTF8.data.toList ∧
    ∀ declared, Value.literal (.text content) declared = Text.quoteLiteral content ∨
      StandsBare content (Value.literal (.text content) declared) := by
  refine ⟨?_, ?_, literal_text_cases content⟩
  · rw [isNumeral_iff_isWritten]
    constructor
    · intro h
      obtain ⟨before, after, hcontent, hbefore, hafter⟩ := Text.exists_padding content.toList
      exact ⟨before, _, after, hcontent, hbefore, hafter, h⟩
    · rintro ⟨before, number, after, hcontent, hbefore, hafter, h⟩
      rwa [hcontent, Template.trimChars_padded before hbefore h.isTrimmed hafter]
  · rw [Text.data_toUTF8, Numeral.scan_utf8, Text.trim, String.toList_ofList]
    rfl

/-- Nothing but a numeral stands between the white space. -/
example : ["0", "-7", "+3", "3.25", ".5", "5.", "2.5E-3", " 12 "].all isNumeral = true ∧
    ["", "-", ".", "1e", "1 2", "0x1f", "inf", "1;drop", "1e+", "١"].any isNumeral = false := by
  decide

end WarehouseSql
