import Mathlib.Data.List.Basic
import Mathlib.Tactic.Common
import WarehouseSql.Text.Case

/-!
Upper case in every script.  The tables map no code to one that they map further, which is checked with the codes as the
bits of two numbers (`Text.not_mem_changedCodes`).  So **upper case stays as it is** (`Text.upperChar_of_mem`,
`Text.upper_upper`), and signs such as dots and quotes come from themselves only (`Text.mem_upper_iff`).
-/

namespace WarehouseSql.Text

/-! ### the tables of upper case -/

def CaseRun.codes (run : CaseRun) : List Nat :=
  List.range' run.first ((run.last - run.first) / run.step + 1) run.step

def CaseRun.images (run : CaseRun) : List Nat := run.codes.map fun code : Nat => (code + run.shift).toNat

lemma CaseRun.mem_of_image? {run : CaseRun} {code image : Nat} (h : run.image? code = some image) :
    code ∈ run.codes ∧ image ∈ run.images := by
  rw [CaseRun.image?, Option.ite_none_right_eq_some, Option.some.injEq] at h
  obtain ⟨⟨hfirst, hlast, hstep⟩, rfl⟩ := h
  have hcode : code ∈ run.codes := by
    refine List.mem_range'.2 ⟨(code - run.first) / run.step, ?_, ?_⟩
    · exact Nat.lt_succ_of_le (Nat.div_le_div_right (Nat.sub_le_sub_right hlast _))
    · have hmultiple : run.step * ((code - run.first) / run.step) = code - run.first :=
        Nat.mul_div_cancel' (Nat.dvd_of_mod_eq_zero hstep)
      omega
  exact ⟨hcode, List.mem_map_of_mem hcode⟩

/-- What upper case maps to: the capital letters of ASCII, and the images of the tables. -/
def imageCodes : List Nat :=
  List.range' 0x41 26 ++ upperRuns.flatMap CaseRun.images ++ upperExpansions.flatMap Prod.snd

/-- What upper case does not map to: all other letters and signs of ASCII, and what the tables map. -/
def changedCodes : List Nat :=
  List.range 0x41 ++ List.range' 0x5b 37 ++ upperRuns.flatMap CaseRun.codes ++ upperExpansions.map Prod.fst

/-- Codes as the bits of a number. -/
def bits (codes : List Nat) : Nat := codes.foldr (fun code sofar => 1 <<< code ||| sofar) 0

lemma testBit_bits {codes : List Nat} {code : Nat} (h : code ∈ codes) : (bits codes).testBit code = true := by
  induction codes with
  | nil => exact absurd h List.not_mem_nil
  | cons first rest ih =>
    rw [bits, List.foldr_cons, Nat.testBit_or, Bool.or_eq_true]
    rcases List.mem_cons.1 h with rfl | h
    · left
      rw [Nat.one_shiftLeft, Nat.testBit_two_pow_self]
    · exact .inr (ih h)

lemma bits_imageCodes : bits imageCodes &&& bits changedCodes = 0 := by decide +kernel

lemma not_mem_changedCodes {code : Nat} (h : code ∈ imageCodes) : code ∉ changedCodes := by
  intro hchanged
  have hbit : (bits imageCodes &&& bits changedCodes).testBit code = true := by
    rw [Nat.testBit_and, testBit_bits h, testBit_bits hchanged, Bool.and_self]
  rw [bits_imageCodes, Nat.zero_testBit] at hbit
  cases hbit

/-! ### one character -/

/-- A code that is mapped to stands for a character that is not mapped; a code of no character counts as null. -/
lemma ofNat_not_mem_changedCodes {code : Nat} (h : code ∈ imageCodes) :
    Char.ofNat code = '\x00' ∨ (Char.ofNat code).toNat ∉ changedCodes := by
  by_cases hvalid : code.isValidChar
  · right
    have hcode : (Char.ofNat code).toNat = code := by
      rw [Char.ofNat, dif_pos hvalid]
      rfl
    rw [hcode]
    exact not_mem_changedCodes h
  · left
    rw [Char.ofNat, dif_neg hvalid]
    rfl

lemma mem_of_lookup_upperExpansions {code : Nat} {codes : List Nat} (h : upperExpansions.lookup code = some codes) :
    (code, codes) ∈ upperExpansions := by
  obtain ⟨before, after, hsplit, -⟩ := List.lookup_eq_some_iff.1 h
  rw [hsplit]
  exact List.mem_append_right _ List.mem_cons_self

lemma upperChar_cases (c : Char) :
    upperChar c = [c] ∨ ∃ codes : List Nat, upperChar c = codes.map Char.ofNat ∧ ∀ code ∈ codes, code ∈ imageCodes := by
  rw [upperChar]
  split_ifs with hascii hletter
  · have hfirst : 97 ≤ c.toNat := hletter.1
    have hlast : c.toNat ≤ 122 := hletter.2
    refine .inr ⟨[((c.toNat : Int) + -32).toNat], rfl, List.forall_mem_singleton.2 ?_⟩
    refine List.mem_append_left _ (List.mem_append_left _ (List.mem_range'_1.2 ?_))
    omega
  · exact .inl rfl
  · rw [mapByTable]
    split
    · next codes hlookup =>
      refine .inr ⟨codes, rfl, fun code hcode => List.mem_append_right _ ?_⟩
      exact List.mem_flatMap_of_mem (mem_of_lookup_upperExpansions hlookup) hcode
    · split
      · next image himage =>
        obtain ⟨run, hrun, himage⟩ := List.exists_of_findSome?_eq_some himage
        refine .inr ⟨[image], rfl, List.forall_mem_singleton.2 ?_⟩
        refine List.mem_append_left _ (List.mem_append_right _ ?_)
        exact List.mem_flatMap_of_mem hrun (CaseRun.mem_of_image? himage).2
      · exact .inl rfl

lemma upperChar_of_not_mem {c : Char} (h : c.toNat ∉ changedCodes) : upperChar c = [c] := by
  have hlookup : upperExpansions.lookup c.toNat = none := by
    by_contra hsome
    obtain ⟨codes, hcodes⟩ := Option.ne_none_iff_exists'.1 hsome
    exact h (List.mem_append_right _ (List.mem_map_of_mem (mem_of_lookup_upperExpansions hcodes)))
  have hruns : upperRuns.findSome? (·.image? c.toNat) = none := by
    refine List.findSome?_eq_none_iff.2 fun run hrun => Option.eq_none_iff_forall_ne_some.2 fun image himage => ?_
    refine h (List.mem_append_left _ (List.mem_append_right _ ?_))
    exact List.mem_flatMap_of_mem hrun (CaseRun.mem_of_image? himage).1
  rw [upperChar]
  split_ifs with hascii hletter
  · have hfirst : 97 ≤ c.toNat := hletter.1
    refine absurd (List.mem_append_left _ (List.mem_append_left _ (List.mem_append_right _ ?_))) h
    exact List.mem_range'_1.2 ⟨by omega, by omega⟩
  · rfl
  · rw [mapByTable, hlookup, hruns]

/-- **What upper case maps to, it does not map further.** -/
theorem upperChar_of_mem {c d : Char} (h : d ∈ upperChar c) : upperChar d = [d] := by
  rcases upperChar_cases c with hsame | ⟨codes, hcodes, himages⟩
  · rw [hsame, List.mem_singleton] at h
    rw [h, hsame]
  · rw [hcodes] at h
    obtain ⟨code, hcode, rfl⟩ := List.mem_map.1 h
    rcases ofNat_not_mem_changedCodes (himages code hcode) with hnull | hkept
    · rw [hnull]
      decide
    · exact upperChar_of_not_mem hkept

/-- Signs of ASCII before the letters come from themselves only. -/
lemma mem_upperChar_iff {c sign : Char} (hpos : 0 < sign.toNat) (hsign : sign.toNat ≤ 0x40) :
    sign ∈ upperChar c ↔ c = sign := by
  have hletter : ¬ ('a' ≤ sign ∧ sign ≤ 'z') := fun h => by
    have hfirst : 97 ≤ sign.toNat := h.1
    omega
  have hsame : upperChar sign = [sign] := by
    rw [upperChar, if_pos (by omega), if_neg hletter]
  constructor
  · intro h
    rcases upperChar_cases c with hsame | ⟨codes, hcodes, himages⟩
    · rw [hsame, List.mem_singleton] at h
      exact h.symm
    · rw [hcodes] at h
      obtain ⟨code, hcode, rfl⟩ := List.mem_map.1 h
      rcases ofNat_not_mem_changedCodes (himages code hcode) with hnull | hkept
      · rw [hnull] at hpos
        exact absurd hpos (by decide)
      · refine absurd (List.mem_append_left _ (List.mem_append_left _ (List.mem_append_left _ ?_))) hkept
        exact List.mem_range.2 (Nat.lt_succ_of_le hsign)
  · rintro rfl
    rw [hsame]
    exact List.mem_singleton_self c

/-! ### texts -/

lemma mem_upper {s : String} {d : Char} : d ∈ (upper s).toList ↔ ∃ c ∈ s.toList, d ∈ upperChar c := by
  rw [upper, String.toList_ofList, List.mem_flatMap]

lemma upper_append (a b : String) : upper (a ++ b) = upper a ++ upper b := by
  rw [upper, String.toList_append, List.flatMap_append, String.ofList_append]
  rfl

lemma upper_eq_self {s : String} (h : ∀ c ∈ s.toList, upperChar c = [c]) : upper s = s := by
  rw [upper, List.flatMap_congr h, List.flatMap_singleton', String.ofList_toList]

/-- **A text in upper case stays as it is.** -/
theorem upper_upper (s : String) : upper (upper s) = upper s := by
  refine upper_eq_self fun d hd => ?_
  obtain ⟨c, -, hmem⟩ := mem_upper.1 hd
  exact upperChar_of_mem hmem

lemma mem_upper_iff {s : String} {sign : Char} (hpos : 0 < sign.toNat) (hsign : sign.toNat ≤ 0x40) :
    sign ∈ (upper s).toList ↔ sign ∈ s.toList := by
  simp [mem_upper, mem_upperChar_iff hpos hsign]

end WarehouseSql.Text
