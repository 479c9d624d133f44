import Mathlib.Algebra.Order.Field.Power
import Mathlib.Tactic.FieldSimp
import Mathlib.Tactic.Positivity
import WarehouseSql.Value.Basic
import WarehouseSql.Proofs.Binary64.Whole

/-!
The integers that numerals are read as.  A numeral with neither point nor exponent is read as it stands while it fits
64 bits; every other one is rounded to a double and the double is cut off.  **A numeral is read as the number that it
denotes exactly if it survives this** (`Numeral.toInteger_eq_value_iff`): it denotes an integer of 64 bits, and it is
plain, or the integer has at most 53 bits from its first one to its last one, or it is the largest integer.
-/

namespace WarehouseSql

lemma powerOfTen_eq (exponent : Nat) : powerOfTen exponent = 10 ^ exponent := rfl

lemma powerOfTen_pos (exponent : Nat) : 0 < powerOfTen exponent := Nat.pow_pos (by decide)

namespace Decimal

/-- The number that a decimal denotes. -/
def value (d : Decimal) : ℚ := d.significand * 10 ^ d.exponent

lemma value_nonneg (d : Decimal) : 0 ≤ d.value := by
  rw [value]
  positivity

lemma value_of_nonneg {d : Decimal} (h : 0 ≤ d.exponent) :
    d.value = (d.significand * powerOfTen d.exponent.toNat : Nat) := by
  obtain ⟨exponent, he⟩ := Int.eq_ofNat_of_zero_le h
  rw [value, he, zpow_natCast, Int.toNat_natCast, powerOfTen_eq]
  push_cast
  rfl

lemma value_mul_of_neg {d : Decimal} (h : d.exponent < 0) :
    d.value * (powerOfTen (-d.exponent).toNat : Nat) = d.significand := by
  obtain ⟨exponent, he⟩ := Int.eq_ofNat_of_zero_le (Int.neg_nonneg_of_nonpos h.le)
  rw [value, he, Int.toNat_natCast, powerOfTen_eq, ← neg_neg d.exponent, he, zpow_neg, zpow_natCast]
  push_cast
  field_simp

lemma lt_powerOfTen_iff {n count : Nat} (hcount : 0 < count) : n < powerOfTen count ↔ (digits n).length ≤ count :=
  (Nat.length_toDigits_le_iff (by decide) hcount).symm

/-- An integer of 64 bits is far from where rounding is cut short. -/
lemma top_bounds {d : Decimal} {n : Nat} (hn : n ≠ 0) (hlt : n < 2 ^ 64) (h : d.value = n) :
    -330 ≤ (digits d.significand).length + d.exponent ∧ (digits d.significand).length + d.exponent ≤ 310 := by
  have hten : n < powerOfTen 20 := Nat.lt_trans hlt (by decide)
  rcases le_or_gt 0 d.exponent with he | he
  · have hmul : d.significand * powerOfTen d.exponent.toNat = n := by
      exact_mod_cast (value_of_nonneg he).symm.trans h
    have hpos : 0 < d.significand := Nat.pos_of_ne_zero fun h0 => hn (by rw [← hmul, h0, Nat.zero_mul])
    have hdigits : (digits d.significand).length ≤ 20 :=
      (lt_powerOfTen_iff (by decide)).1 ((Nat.le_mul_of_pos_right _ (powerOfTen_pos _)).trans_lt (hmul ▸ hten))
    have hexponent : d.exponent.toNat < 20 :=
      (Nat.pow_lt_pow_iff_right (by decide)).1 ((Nat.le_mul_of_pos_left _ hpos).trans_lt (hmul ▸ hten))
    omega
  · have hmul : n * powerOfTen (-d.exponent).toNat = d.significand := by
      exact_mod_cast h ▸ value_mul_of_neg he
    have hlow : ¬(digits d.significand).length ≤ (-d.exponent).toNat := by
      rw [← lt_powerOfTen_iff (by omega), not_lt, ← hmul]
      exact Nat.le_mul_of_pos_left _ (Nat.pos_of_ne_zero hn)
    have hhigh : (digits d.significand).length ≤ 20 + (-d.exponent).toNat := by
      rw [← lt_powerOfTen_iff (by omega), ← hmul, powerOfTen_eq (20 + _), Nat.pow_add]
      exact Nat.mul_lt_mul_of_pos_right hten (powerOfTen_pos _)
    omega

/-- A decimal that denotes an integer of 64 bits is rounded as a ratio of that integer. -/
lemma exists_round_eq {d : Decimal} {n : Nat} (hn : n ≠ 0) (hlt : n < 2 ^ 64) (h : d.value = n) (negative : Bool) :
    ∃ den, 0 < den ∧ d.round negative = Binary64.ofRatio negative (n * den) den := by
  obtain ⟨hlow, hhigh⟩ := top_bounds hn hlt h
  have hsignificand : d.significand ≠ 0 := by
    intro h0
    rw [value, h0, Nat.cast_zero, zero_mul] at h
    exact hn (by exact_mod_cast h.symm)
  rw [round, if_neg hsignificand]
  dsimp only
  rw [if_neg (not_lt.2 hhigh), if_neg (not_lt.2 hlow)]
  rcases le_or_gt 0 d.exponent with he | he
  · have hmul : d.significand * powerOfTen d.exponent.toNat = n := by
      exact_mod_cast (value_of_nonneg he).symm.trans h
    exact ⟨1, Nat.one_pos, by rw [if_pos he, hmul, Nat.mul_one]⟩
  · have hmul : n * powerOfTen (-d.exponent).toNat = d.significand := by
      exact_mod_cast h ▸ value_mul_of_neg he
    exact ⟨_, powerOfTen_pos (-d.exponent).toNat, by rw [if_neg (not_le.2 he), hmul]⟩

end Decimal

namespace Numeral

/-- The number that a numeral denotes. -/
def value (n : Numeral) : ℚ := if n.negative then -n.decimal.value else n.decimal.value

/-- Neither a point nor an exponent is written. -/
def IsPlain (n : Numeral) : Prop := n.fraction = none ∧ n.exponent = none

/-- The integer that a numeral is read as. -/
def toInteger (n : Numeral) : Int64 := n.toInt64?.getD n.toBinary64.toInt64

/-- A numeral that denotes an integer of 64 bits which is not lost on the way through a double. -/
def Survives (n : Numeral) : Prop :=
  ∃ k : Int64, n.value = k.toInt ∧ (n.IsPlain ∨ FitsSignificand k.toInt.natAbs ∨ k = Int64.maxValue)

/-! ### numerals as they stand -/

lemma isPlain_iff (n : Numeral) : n.IsPlain ↔ (n.fraction.isSome || n.exponent.isSome) = false := by
  rw [IsPlain, Bool.or_eq_false_iff, Option.isSome_eq_false_iff, Option.isSome_eq_false_iff, Option.isNone_iff_eq_none,
    Option.isNone_iff_eq_none]

lemma value_of_isPlain {n : Numeral} (h : n.IsPlain) :
    n.value = ((if n.negative then -(Decimal.ofDigits n.whole : Int) else Decimal.ofDigits n.whole : Int) : ℚ) := by
  have hdecimal : n.decimal.value = Decimal.ofDigits n.whole := by
    simp [decimal, Decimal.value, h.1, h.2]
  rw [value, hdecimal]
  split_ifs <;> push_cast <;> rfl

lemma int64OfInt?_eq_some_iff {n : Int} {k : Int64} : int64OfInt? n = some k ↔ n = k.toInt := by
  rw [int64OfInt?]
  split_ifs with h
  · have hofInt : (Int64.ofInt n).toInt = n := Int64.toInt_ofInt_of_le h.1 (Int.lt_add_one_of_le h.2)
    rw [Option.some_inj, ← Int64.toInt_inj, hofInt]
  · refine ⟨nofun, fun hn => absurd ⟨?_, ?_⟩ h⟩
    · exact hn ▸ k.le_toInt
    · exact hn ▸ Int.le_of_lt_add_one k.toInt_lt

lemma toInt64?_eq_some_iff {n : Numeral} {k : Int64} : n.toInt64? = some k ↔ n.IsPlain ∧ n.value = k.toInt := by
  rw [toInt64?]
  cases hplain : n.fraction.isSome || n.exponent.isSome with
  | false =>
    have h := (isPlain_iff n).2 hplain
    rw [if_neg Bool.false_ne_true, int64OfInt?_eq_some_iff, value_of_isPlain h, Int.cast_inj]
    exact (and_iff_right h).symm
  | true =>
    rw [if_pos rfl]
    refine ⟨nofun, fun h => ?_⟩
    rw [(isPlain_iff n).1 h.1] at hplain
    cases hplain

/-! ### numerals through a double -/

lemma value_eq_iff {n : Numeral} {k : Int} (h : n.value = k) :
    n.decimal.value = k.natAbs ∧ (k.natAbs ≠ 0 → k = if n.negative then -(k.natAbs : Int) else k.natAbs) := by
  have hnonneg := n.decimal.value_nonneg
  rw [value] at h
  split_ifs at h ⊢ with hsign
  · have hk : k ≤ 0 := by exact_mod_cast h ▸ neg_nonpos.2 hnonneg
    have habs : (k.natAbs : Int) = -k := by omega
    refine ⟨?_, fun _ => by omega⟩
    rw [← Int.cast_natCast, habs, Int.cast_neg, ← h, neg_neg]
  · have hk : 0 ≤ k := by exact_mod_cast h ▸ hnonneg
    have habs : (k.natAbs : Int) = k := by omega
    refine ⟨?_, fun _ => habs.symm⟩
    rw [← Int.cast_natCast, habs, h]

/-- **An integer of few bits comes through a double unchanged**, and so does the largest integer. -/
lemma toInt64_toBinary64 {n : Numeral} {k : Int64} (h : n.value = k.toInt)
    (hk : FitsSignificand k.toInt.natAbs ∨ k = Int64.maxValue) : n.toBinary64.toInt64 = k := by
  obtain ⟨hvalue, hsign⟩ := value_eq_iff h
  by_cases hzero : k.toInt.natAbs = 0
  · have hsignificand : n.decimal.significand = 0 := by
      have hpow : (10 : ℚ) ^ n.decimal.exponent ≠ 0 := zpow_ne_zero _ (by norm_num)
      rw [hzero, Nat.cast_zero, Decimal.value, mul_eq_zero, or_iff_left hpow] at hvalue
      exact_mod_cast hvalue
    have hk0 : k = 0 := Int64.toInt_inj.1 (Int.natAbs_eq_zero.1 hzero)
    rw [toBinary64, Decimal.round, if_pos hsignificand, hk0]
    exact Binary64.toInt64_zero n.negative
  · have hlt : k.toInt.natAbs < 2 ^ 64 := by
      have hlow := k.le_toInt
      have hhigh := k.toInt_lt
      omega
    obtain ⟨den, hden, hround⟩ := Decimal.exists_round_eq hzero hlt hvalue n.negative
    rw [toBinary64, hround]
    rcases hk with hfits | rfl
    · exact Binary64.toInt_toInt64_ofRatio hden hzero hfits (hsign hzero)
    · -- only the positive limit has this magnitude
      have hpositive : n.negative = false := by
        cases hn : n.negative with
        | false => rfl
        | true =>
          rw [hn] at hsign
          exact absurd (hsign hzero) (by decide)
      rw [hpositive]
      exact Binary64.toInt64_ofRatio_largest hden

/-! ### what survives -/

/-- **A numeral is read as the number that it denotes exactly if it survives.** -/
theorem toInteger_eq_value_iff (n : Numeral) : n.value = n.toInteger.toInt ↔ n.Survives := by
  constructor
  · intro h
    refine ⟨n.toInteger, h, ?_⟩
    cases hplain : n.toInt64? with
    | some k => exact .inl (toInt64?_eq_some_iff.1 hplain).1
    | none =>
      rw [toInteger, hplain, Option.getD_none]
      exact .inr n.toBinary64.fitsSignificand_toInt64
  · rintro ⟨k, hvalue, hk⟩
    have hread : n.toInteger = k := by
      by_cases hplain : n.IsPlain
      · rw [toInteger, toInt64?_eq_some_iff.2 ⟨hplain, hvalue⟩, Option.getD_some]
      · have hnone : n.toInt64? = none :=
          Option.eq_none_iff_forall_ne_some.2 fun _ hsome => hplain (toInt64?_eq_some_iff.1 hsome).1
        rw [toInteger, hnone, Option.getD_none]
        exact toInt64_toBinary64 hvalue (hk.resolve_left hplain)
    rw [hread, hvalue]

end Numeral

end WarehouseSql
