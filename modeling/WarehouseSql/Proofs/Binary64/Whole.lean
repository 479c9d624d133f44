import Mathlib.Tactic.Ring
import WarehouseSql.Value.Numeral

/-!
Whole numbers among the doubles.  A whole number is a double exactly if it is a significand of at most 53 bits times a
power of two (`FitsSignificand`).  **Rounding leaves such a number as it is** (`Magnitude.exists_ofRatio?_eq`), and
**cutting a double off at the point gives no other** (`Binary64.fitsSignificand_toInt64`), but for the largest
integer of 64 bits, which the doubles above it are held at.
-/

namespace WarehouseSql

/-- A whole number with no more than 53 bits from its first one to its last one. -/
def FitsSignificand (n : Nat) : Prop := ∃ significand scale, n = significand * 2 ^ scale ∧ significand < 2 ^ 53

lemma powerOfTwo_eq (exponent : Nat) : powerOfTwo exponent = 2 ^ exponent := rfl

namespace Magnitude

def fractionBits : Nat := 1074

lemma unitsPerOne_eq : unitsPerOne = 2 ^ fractionBits := powerOfTwo_eq fractionBits

lemma unitsPerOne_pos : 0 < unitsPerOne := by
  rw [unitsPerOne_eq]
  exact Nat.two_pow_pos fractionBits

/-! ### rounding -/

lemma divideToEven_mul_mul_right (num den : Nat) {unit : Nat} (hunit : 0 < unit) :
    divideToEven (num * unit) (den * unit) = divideToEven num den := by
  simp only [divideToEven, Nat.mul_div_mul_right _ _ hunit, Nat.mul_mod_mul_right, ← Nat.mul_assoc,
    Nat.mul_lt_mul_right hunit]

lemma divideToEven_mul (n : Nat) {den : Nat} (hden : 0 < den) : divideToEven (n * den) den = n := by
  simp only [divideToEven, Nat.mul_mod_left, Nat.mul_div_cancel n hden, Nat.mul_zero, if_pos hden]

/-- The leading bit of a significand is the 53rd, if the scale is chosen so. -/
lemma significand_bounds {n scale significand : Nat} (hn : n ≠ 0) (hscale : 52 ≤ n.log2) (h : scale = n.log2 - 52)
    (hmul : n = significand * 2 ^ scale) : 2 ^ 52 ≤ significand ∧ significand < 2 ^ 53 := by
  have hlow : 2 ^ (52 + scale) ≤ n := by
    rw [h, Nat.add_sub_cancel' hscale]
    exact Nat.log2_self_le hn
  have hhigh : n < 2 ^ (53 + scale) := by
    have heq : 53 + scale = n.log2 + 1 := by omega
    rw [heq]
    exact Nat.lt_log2_self
  rw [hmul, Nat.pow_add] at hlow hhigh
  have hpos : 0 < 2 ^ scale := Nat.two_pow_pos scale
  exact ⟨Nat.le_of_mul_le_mul_right hlow hpos, Nat.lt_of_mul_lt_mul_right hhigh⟩

/-- A number of few bits is a multiple of the scale that rounding takes. -/
lemma exists_eq_mul_of_fits {significand scale : Nat} (h : significand < 2 ^ 53) {n : Nat} (hn : n = significand * 2 ^ scale)
    (hne : n ≠ 0) (hlog : 52 ≤ n.log2) : ∃ kept, n = kept * 2 ^ (n.log2 - 52) := by
  have hlt : n < 2 ^ (53 + scale) := by
    rw [hn, Nat.pow_add]
    exact Nat.mul_lt_mul_of_pos_right h (Nat.two_pow_pos scale)
  have hscale : n.log2 - 52 ≤ scale := by
    have := (Nat.log2_lt hne).2 hlt
    omega
  refine ⟨significand * 2 ^ (scale - (n.log2 - 52)), ?_⟩
  rw [Nat.mul_assoc, ← Nat.pow_add, Nat.sub_add_cancel hscale]
  exact hn

/-- **A whole number of few bits is left as it is.** -/
theorem exists_ofRatio?_eq {n den : Nat} (hden : 0 < den) (hn : n ≠ 0) (hfits : FitsSignificand n) (hlt : n < 2 ^ 64) :
    ∃ x, ofRatio? (n * den) den = some x ∧ x.units = n * unitsPerOne := by
  obtain ⟨significand, scale, hmul, hsignificand⟩ := hfits
  have hscaled : n * den * unitsPerOne / den = n * unitsPerOne := by
    rw [Nat.mul_right_comm, Nat.mul_div_cancel _ hden]
  have hunits : n * unitsPerOne = significand * 2 ^ (scale + fractionBits) := by
    rw [hmul, unitsPerOne_eq, Nat.pow_add, Nat.mul_assoc]
  have hne : n * unitsPerOne ≠ 0 := Nat.mul_ne_zero hn unitsPerOne_pos.ne'
  -- the leading bit stands before the point, and not too far before it
  have hlow : fractionBits ≤ (n * unitsPerOne).log2 := by
    rw [Nat.le_log2 hne, unitsPerOne_eq]
    exact Nat.le_mul_of_pos_left _ (Nat.pos_of_ne_zero hn)
  have hhigh : (n * unitsPerOne).log2 < 64 + fractionBits := by
    rw [Nat.log2_lt hne, Nat.pow_add, ← unitsPerOne_eq]
    exact Nat.mul_lt_mul_of_pos_right hlt unitsPerOne_pos
  rw [fractionBits] at hlow hhigh
  obtain ⟨kept, hkept⟩ := exists_eq_mul_of_fits hsignificand hunits hne (by omega)
  obtain ⟨hleast, hmost⟩ := significand_bounds hne (by omega) rfl hkept
  have hround : divideToEven (n * den * unitsPerOne)
      (den * powerOfTwo ((n * unitsPerOne).log2 - 52)) = kept := by
    have hmultiple : n * den * unitsPerOne = kept * (den * powerOfTwo ((n * unitsPerOne).log2 - 52)) := by
      calc n * den * unitsPerOne = n * unitsPerOne * den := Nat.mul_right_comm n den _
        _ = kept * 2 ^ ((n * unitsPerOne).log2 - 52) * den := by rw [← hkept]
        _ = kept * (den * powerOfTwo ((n * unitsPerOne).log2 - 52)) := by rw [powerOfTwo_eq]; ring
    rw [hmultiple]
    exact divideToEven_mul kept (Nat.mul_pos hden (Nat.two_pow_pos _))
  have hcanonical : kept < powerOfTwo 53 ∧ (n * unitsPerOne).log2 - 52 ≤ 2045 ∧
      ((n * unitsPerOne).log2 - 52 = 0 ∨ powerOfTwo 52 ≤ kept) := ⟨hmost, by omega, .inr hleast⟩
  refine ⟨⟨kept, (n * unitsPerOne).log2 - 52, hcanonical⟩, ?_, hkept.symm⟩
  have hwidth : kept ≠ powerOfTwo 53 := Nat.ne_of_lt hmost
  simp only [ofRatio?, hscaled, hround]
  rw [if_neg hwidth, mk?, dif_pos hcanonical]

/-- The largest integer of 64 bits is rounded up to a power of two. -/
lemma exists_ofRatio?_largest {den : Nat} (hden : 0 < den) :
    ∃ x, ofRatio? ((2 ^ 63 - 1) * den) den = some x ∧ x.units = 2 ^ 63 * unitsPerOne := by
  have hscaled : (2 ^ 63 - 1) * den * unitsPerOne / den = (2 ^ 63 - 1) * unitsPerOne := by
    rw [Nat.mul_right_comm, Nat.mul_div_cancel _ hden]
  have hlog : ((2 ^ 63 - 1) * unitsPerOne).log2 = 62 + fractionBits := by
    rw [Nat.log2_eq_iff (Nat.mul_ne_zero (by decide) unitsPerOne_pos.ne'), Nat.add_right_comm, Nat.pow_add,
      Nat.pow_add, ← unitsPerOne_eq]
    exact ⟨Nat.mul_le_mul_right _ (by decide), Nat.mul_lt_mul_of_pos_right (by decide) unitsPerOne_pos⟩
  have hscale : 62 + fractionBits - 52 = 10 + fractionBits := by omega
  -- at this scale it lies less than half a unit below a power of two
  have hround : divideToEven ((2 ^ 63 - 1) * den * unitsPerOne) (den * powerOfTwo (10 + fractionBits)) =
      powerOfTwo 53 := by
    rw [powerOfTwo_eq (10 + fractionBits), Nat.pow_add, ← unitsPerOne_eq, Nat.mul_left_comm, Nat.mul_assoc,
      divideToEven_mul_mul_right _ _ (Nat.mul_pos hden unitsPerOne_pos)]
    decide
  -- the significand is one bit too long then, so that the scale moves by one
  have hcanonical : powerOfTwo 52 < powerOfTwo 53 ∧ 10 + fractionBits + 1 ≤ 2045 ∧
      (10 + fractionBits + 1 = 0 ∨ powerOfTwo 52 ≤ powerOfTwo 52) :=
    ⟨by decide, by rw [fractionBits]; omega, .inr le_rfl⟩
  refine ⟨⟨powerOfTwo 52, 10 + fractionBits + 1, hcanonical⟩, ?_, ?_⟩
  · simp only [ofRatio?, hscaled, hlog, hscale, hround]
    rw [if_pos trivial, mk?, dif_pos hcanonical]
  · calc powerOfTwo 52 * powerOfTwo (10 + fractionBits + 1) = 2 ^ (52 + (10 + fractionBits + 1)) := by
          rw [powerOfTwo_eq, powerOfTwo_eq, Nat.pow_add 2 52]
      _ = 2 ^ (63 + fractionBits) := congrArg (2 ^ ·) (by omega)
      _ = 2 ^ 63 * unitsPerOne := by rw [unitsPerOne_eq, Nat.pow_add]

/-- The whole part of a magnitude has few bits. -/
lemma fitsSignificand_units_div (x : Magnitude) : FitsSignificand (x.units / unitsPerOne) := by
  have hsignificand : x.significand < 2 ^ 53 := x.canonical.1
  rw [units, powerOfTwo_eq, unitsPerOne_eq]
  rcases Nat.le_total fractionBits x.scale with hscale | hscale
  · refine ⟨x.significand, x.scale - fractionBits, ?_, hsignificand⟩
    have hpow : 2 ^ x.scale = 2 ^ (x.scale - fractionBits) * 2 ^ fractionBits := by
      rw [← Nat.pow_add, Nat.sub_add_cancel hscale]
    rw [hpow, ← Nat.mul_assoc, Nat.mul_div_cancel _ (Nat.two_pow_pos _)]
  · refine ⟨_, 0, (Nat.mul_one _).symm, Nat.lt_of_le_of_lt (Nat.div_le_of_le_mul ?_) hsignificand⟩
    rw [Nat.mul_comm (2 ^ fractionBits)]
    exact Nat.mul_le_mul_left _ (Nat.pow_le_pow_right (by decide) hscale)

end Magnitude

/-! ### cutting off -/

namespace Binary64

lemma toInt_clampInt64 {n : Int} (h : Int64.minValue.toInt ≤ n ∧ n ≤ Int64.maxValue.toInt) :
    (clampInt64 n).toInt = n := by
  have hlow : -2 ^ 63 ≤ n := h.1
  have hhigh : n < 2 ^ 63 := Int.lt_add_one_of_le h.2
  rw [clampInt64, if_neg (by omega), if_neg (by omega), Int64.toInt_ofInt_of_le hlow hhigh]

lemma fitsSignificand_clampInt64 {n : Int} (h : FitsSignificand n.natAbs) :
    FitsSignificand (clampInt64 n).toInt.natAbs ∨ clampInt64 n = Int64.maxValue := by
  by_cases hlow : n < Int64.minValue.toInt
  · rw [clampInt64, if_pos hlow]
    exact .inl ⟨1, 63, by decide, by decide⟩
  · by_cases hhigh : Int64.maxValue.toInt < n
    · rw [clampInt64, if_neg hlow, if_pos hhigh]
      exact .inr rfl
    · rw [toInt_clampInt64 ⟨Int.not_lt.1 hlow, Int.not_lt.1 hhigh⟩]
      exact .inl h

/-- **A double that is cut off has few bits**, unless it is held at the largest integer. -/
theorem fitsSignificand_toInt64 (x : Binary64) :
    FitsSignificand x.toInt64.toInt.natAbs ∨ x.toInt64 = Int64.maxValue := by
  cases x with
  | nan => exact .inl ⟨0, 0, by decide, by decide⟩
  | infinite negative =>
    cases negative with
    | false => exact .inr rfl
    | true => exact .inl ⟨1, 63, by decide, by decide⟩
  | finite negative magnitude =>
    refine fitsSignificand_clampInt64 ?_
    have hwhole := magnitude.fitsSignificand_units_div
    split_ifs
    · rwa [Int.natAbs_neg, Int.natAbs_natCast]
    · rwa [Int.natAbs_natCast]

/-- Rounding a signed ratio, stated of the function: checking it of a ratio would start to compute the magnitude. -/
lemma ofRatio_def : ofRatio = fun negative num den =>
    match Magnitude.ofRatio? num den with
    | some magnitude => .finite negative magnitude
    | none => .infinite negative := by
  delta ofRatio
  exact Eq.refl _

lemma ofRatio_of_eq_some {num den : Nat} {x : Magnitude} (h : Magnitude.ofRatio? num den = some x) (negative : Bool) :
    ofRatio negative num den = .finite negative x := by
  rw [ofRatio_def]
  beta_reduce
  rw [h]

/-- **A whole number of few bits and its double are cut off alike.** -/
theorem toInt_toInt64_ofRatio {n den : Nat} (hden : 0 < den) (hn : n ≠ 0) (hfits : FitsSignificand n) {negative : Bool}
    {k : Int64} (hk : k.toInt = if negative then -(n : Int) else n) : (ofRatio negative (n * den) den).toInt64 = k := by
  have hbounds : Int64.minValue.toInt ≤ k.toInt ∧ k.toInt ≤ Int64.maxValue.toInt :=
    ⟨k.le_toInt, Int.le_of_lt_add_one k.toInt_lt⟩
  have hlt : n < 2 ^ 64 := by
    have hlow := k.le_toInt
    have hhigh := k.toInt_lt
    split_ifs at hk <;> omega
  obtain ⟨x, hx, hunits⟩ := Magnitude.exists_ofRatio?_eq hden hn hfits hlt
  have hwhole : x.units / Magnitude.unitsPerOne = n := by
    rw [hunits, Nat.mul_div_cancel _ Magnitude.unitsPerOne_pos]
  rw [ofRatio_of_eq_some hx, toInt64, hwhole, ← hk]
  exact Int64.toInt_inj.1 (toInt_clampInt64 hbounds)

lemma toInt64_zero (negative : Bool) : (finite negative .zero).toInt64 = 0 := by
  have hunits : Magnitude.zero.units = 0 := Nat.zero_mul _
  rw [toInt64, hunits, Nat.zero_div]
  cases negative <;> decide

lemma toInt64_ofRatio_largest {den : Nat} (hden : 0 < den) :
    (ofRatio false ((2 ^ 63 - 1) * den) den).toInt64 = Int64.maxValue := by
  obtain ⟨x, hx, hunits⟩ := Magnitude.exists_ofRatio?_largest hden
  rw [ofRatio_of_eq_some hx, toInt64, hunits, Nat.mul_div_cancel _ Magnitude.unitsPerOne_pos]
  decide

end Binary64

end WarehouseSql
