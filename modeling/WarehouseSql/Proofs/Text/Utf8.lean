import Mathlib.Data.List.TakeWhile
import Mathlib.Tactic.Common

/-!
Texts in UTF-8.  An ASCII character is one byte and the bytes of any other lie beyond ASCII, so a scan that passes over
these one by one comes to the characters that follow (`Text.PassesOver.eq_behind`), also from within a character, and
**an ASCII byte is a character of its own** (`Text.exists_split_of_getElem?_utf8`).  A part of a text between two
positions in bytes is there only if both are boundaries of characters (`Text.slice?`).
-/

namespace WarehouseSql

namespace Text

/-! ### the bytes of a text -/

def utf8 (cs : List Char) : List UInt8 := cs.flatMap String.utf8EncodeChar

@[simp] lemma utf8_nil : utf8 [] = [] := rfl

@[simp] lemma utf8_append (as bs : List Char) : utf8 (as ++ bs) = utf8 as ++ utf8 bs := List.flatMap_append

lemma utf8EncodeChar_of_lt {c : Char} (h : c.toNat < 128) : String.utf8EncodeChar c = [c.toUInt8] := by
  refine String.utf8EncodeChar_eq_singleton (Char.utf8Size_eq_one_iff.2 ?_)
  exact UInt32.le_iff_toNat_le.2 (Nat.le_of_lt_succ h)

lemma utf8_singleton (c : Char) : utf8 [c] = String.utf8EncodeChar c := List.flatMap_singleton ..

lemma utf8_singleton_of_lt {c : Char} (h : c.toNat < 128) : utf8 [c] = [c.toUInt8] := by
  rw [utf8_singleton, utf8EncodeChar_of_lt h]

/-- All bytes of a character beyond ASCII lie beyond ASCII. -/
lemma le_of_mem_utf8_singleton {c : Char} (h : 128 ≤ c.toNat) : ∀ b ∈ utf8 [c], 128 ≤ b.toNat := by
  have hvalid : c.val.toNat < 1114112 := by
    have hcode : c.val.toNat < 55296 ∨ 57343 < c.val.toNat ∧ c.val.toNat < 1114112 := c.valid
    omega
  have hlarge : ¬ c.val.toNat ≤ 127 := Nat.not_le.2 h
  rw [utf8_singleton]
  unfold String.utf8EncodeChar
  dsimp only
  rw [if_neg hlarge]
  split_ifs with htwo hthree
  all_goals
    simp only [List.forall_mem_cons, List.not_mem_nil, IsEmpty.forall_iff, implies_true, and_true]
    simp
    omega

lemma utf8_singleton_ne_nil (c : Char) : utf8 [c] ≠ [] := by
  have hsize := String.length_utf8EncodeChar c
  have hpos := c.utf8Size_pos
  intro hnil
  rw [← utf8_singleton, hnil, List.length_nil] at hsize
  omega

lemma utf8_cons (c : Char) (cs : List Char) : utf8 (c :: cs) = utf8 [c] ++ utf8 cs := by
  rw [← utf8_append, List.singleton_append]

lemma exists_utf8_cons (c : Char) (cs : List Char) : ∃ first more, utf8 (c :: cs) = first :: more ∧
    (c.toNat < 128 ∧ first.toNat = c.toNat ∧ more = utf8 cs ∨ 128 ≤ c.toNat ∧ 128 ≤ first.toNat) := by
  rcases lt_or_ge c.toNat 128 with hc | hc
  · rw [utf8_cons, utf8_singleton_of_lt hc]
    refine ⟨_, _, rfl, .inl ⟨hc, ?_, rfl⟩⟩
    have hbyte : c.toUInt8.toNat = c.toNat % 256 := rfl
    omega
  · obtain ⟨first, more, hencode⟩ := List.exists_cons_of_ne_nil (utf8_singleton_ne_nil c)
    rw [utf8_cons, hencode]
    exact ⟨first, _, rfl, .inr ⟨hc, le_of_mem_utf8_singleton hc first (hencode ▸ List.mem_cons_self)⟩⟩

lemma data_toUTF8 (s : String) : s.toUTF8.data.toList = utf8 s.toList := by
  rw [String.toUTF8_eq_toByteArray, ← String.utf8Encode_toList, List.utf8Encode, List.toList_data_toByteArray]
  rfl

/-! ### positions behind characters -/

lemma getElem?_utf8 (done rest : List Char) : (utf8 (done ++ rest))[(utf8 done).length]? = (utf8 rest).head? := by
  rw [utf8_append, List.getElem?_append_right le_rfl, Nat.sub_self, List.head?_eq_getElem?]

lemma drop_utf8 (done rest : List Char) : (utf8 (done ++ rest)).drop (utf8 done).length = utf8 rest := by
  rw [utf8_append, List.drop_left]

lemma length_utf8_append_sub (done rest : List Char) :
    (utf8 (done ++ rest)).length - (utf8 done).length = (utf8 rest).length := by
  rw [utf8_append, List.length_append, Nat.add_sub_cancel_left]

lemma length_utf8_eq_zero_iff {cs : List Char} : (utf8 cs).length = 0 ↔ cs = [] := by
  cases cs with
  | nil => simp
  | cons c cs =>
    obtain ⟨first, more, hutf8, -⟩ := exists_utf8_cons c cs
    simp [hutf8]

lemma length_utf8_append_eq_iff (done rest : List Char) :
    (utf8 (done ++ rest)).length = (utf8 done).length ↔ rest = [] := by
  rw [utf8_append, List.length_append, Nat.add_eq_left, length_utf8_eq_zero_iff]

lemma length_utf8_lt_cons (done : List Char) (c : Char) (rest : List Char) :
    (utf8 done).length < (utf8 (done ++ c :: rest)).length := by
  have hpos := Nat.pos_of_ne_zero (mt length_utf8_eq_zero_iff.1 (List.cons_ne_nil c rest))
  rw [utf8_append, List.length_append]
  omega

lemma length_utf8_concat {c : Char} (hc : c.toNat < 128) (done : List Char) :
    (utf8 (done ++ [c])).length = (utf8 done).length + 1 := by
  rw [utf8_append, utf8_singleton_of_lt hc, List.length_append, List.length_singleton]

lemma getElem?_utf8_succ {c : Char} (hc : c.toNat < 128) (done rest : List Char) :
    (utf8 (done ++ c :: rest))[(utf8 done).length + 1]? = (utf8 rest).head? := by
  rw [← length_utf8_concat hc, List.append_cons, getElem?_utf8]

lemma getElem?_utf8_pred {done : List Char} (hdone : done ≠ []) (rest : List Char) :
    (utf8 (done ++ rest))[(utf8 done).length - 1]? = (utf8 done).getLast? := by
  have hpos : (utf8 done).length ≠ 0 := fun hzero => hdone (length_utf8_eq_zero_iff.1 hzero)
  rw [utf8_append, List.getElem?_append_left (by omega), List.getLast?_eq_getElem?]

/-- A scan by positions gives the same from the next position on wherever a byte beyond ASCII stands. -/
def PassesOver {α : Type} (bytes : List UInt8) (f : Nat → α) : Prop :=
  ∀ i b, bytes[i]? = some b → 128 ≤ b.toNat → f i = f (i + 1)

lemma PassesOver.eq_of_le {α : Type} {bytes : List UInt8} {f : Nat → α} (h : PassesOver bytes f) {i j : Nat}
    (hij : i ≤ j) (hbetween : ∀ k, i ≤ k → k < j → ∃ b, bytes[k]? = some b ∧ 128 ≤ b.toNat) : f i = f j := by
  induction j, hij using Nat.le_induction with
  | base => rfl
  | succ j hij ih =>
    obtain ⟨b, hb, hbeyond⟩ := hbetween j hij (Nat.lt_succ_self j)
    rw [ih fun k hik hkj => hbetween k hik (hkj.trans (Nat.lt_succ_self j)), h j b hb hbeyond]

/-- **A scan that passes over bytes beyond ASCII comes from the second byte of a character to the next character.** -/
lemma PassesOver.eq_behind {α : Type} {done rest : List Char} {c : Char} {f : Nat → α}
    (h : PassesOver (utf8 (done ++ c :: rest)) f) :
    f ((utf8 done).length + 1) = f (utf8 (done ++ [c])).length := by
  rcases lt_or_ge c.toNat 128 with hc | hc
  · rw [length_utf8_concat hc]
  · have hpos : 0 < (utf8 [c]).length := List.length_pos_iff.2 (utf8_singleton_ne_nil c)
    have hlength : (utf8 (done ++ [c])).length = (utf8 done).length + (utf8 [c]).length := by
      rw [utf8_append, List.length_append]
    refine h.eq_of_le (by omega) fun k hfrom hto => ?_
    have hinner : k - (utf8 done).length < (utf8 [c]).length := by omega
    refine ⟨(utf8 [c])[k - (utf8 done).length], ?_, ?_⟩
    · rw [utf8_append, List.getElem?_append_right (by omega), utf8_cons, List.getElem?_append_left hinner,
        List.getElem?_eq_getElem hinner]
    · exact le_of_mem_utf8_singleton hc _ (List.getElem_mem hinner)

/-! ### characters by their bytes -/

lemma head?_utf8_eq_iff {d : Char} (hd : d.toNat < 128) (cs : List Char) :
    (utf8 cs).head? = some d.toUInt8 ↔ cs.head? = some d := by
  cases cs with
  | nil => simp
  | cons c cs =>
    obtain ⟨first, more, hutf8, hfirst⟩ := exists_utf8_cons c cs
    have hbyte : d.toUInt8.toNat = d.toNat % 256 := rfl
    rw [hutf8, List.head?_cons, List.head?_cons, Option.some_inj, Option.some_inj, ← UInt8.toNat_inj, ← Char.toNat_inj]
    omega

/-- ASCII characters stand first exactly if their bytes do. -/
lemma utf8_prefix_iff {needle : List Char} (hneedle : ∀ c ∈ needle, c.toNat < 128) (cs : List Char) :
    utf8 needle <+: utf8 cs ↔ needle <+: cs := by
  induction needle generalizing cs with
  | nil => simp
  | cons c needle ih =>
    obtain ⟨hc, hneedle⟩ := List.forall_mem_cons.1 hneedle
    rw [utf8_cons, utf8_singleton_of_lt hc, List.singleton_append]
    cases cs with
    | nil => simp
    | cons d cs =>
      obtain ⟨first, more, hutf8, hfirst⟩ := exists_utf8_cons d cs
      have hbyte : c.toUInt8.toNat = c.toNat % 256 := rfl
      rw [hutf8, List.cons_prefix_cons, List.cons_prefix_cons, ← UInt8.toNat_inj, ← Char.toNat_inj]
      rcases hfirst with ⟨-, hsame, rfl⟩ | ⟨hd, hbeyond⟩
      · rw [ih hneedle, hsame, hbyte, Nat.mod_eq_of_lt (by omega)]
      · exact iff_of_false (fun h => by omega) fun h => by omega

lemma getElem?_ne_of_le {bytes : List UInt8} {i : Nat} {b : UInt8} (h : bytes[i]? = some b) (hb : 128 ≤ b.toNat)
    {d : Char} (hd : d.toNat < 128) : bytes[i]? ≠ some d.toUInt8 := by
  rw [h, ne_eq, Option.some_inj]
  rintro rfl
  have hbyte : d.toUInt8.toNat = d.toNat % 256 := rfl
  omega

/-- The character with the code of a byte. -/
def asChar (b : UInt8) : Char := Char.ofNat b.toNat

lemma toNat_asChar (b : UInt8) : (asChar b).toNat = b.toNat := by
  have hlt := b.toNat_lt
  have hvalid : b.toNat.isValidChar := .inl (by omega)
  rw [asChar, Char.ofNat, dif_pos hvalid]
  rfl

lemma asChar_toUInt8 {c : Char} (h : c.toNat < 128) : asChar c.toUInt8 = c := by
  have hbyte : c.toUInt8.toNat = c.toNat % 256 := rfl
  rw [← Char.toNat_inj, toNat_asChar]
  omega

/-- A test of characters that holds of ASCII characters only, so that it can be made of bytes. -/
def IsAsciiTest (p : Char → Bool) : Prop := ∀ c, p c = true → c.toNat < 128

section Test

variable {p : Char → Bool} (hp : IsAsciiTest p)

include hp

lemma test_asChar_eq_false {b : UInt8} (h : 128 ≤ b.toNat) : p (asChar b) = false := by
  refine Bool.eq_false_iff.2 fun htest => ?_
  have hascii := hp _ htest
  rw [toNat_asChar] at hascii
  omega

lemma test_eq_false {c : Char} (h : 128 ≤ c.toNat) : p c = false :=
  Bool.eq_false_iff.2 fun htest => absurd (hp c htest) (Nat.not_lt.2 h)

lemma any_head?_utf8 (cs : List Char) : ((utf8 cs).head?.any fun b => p (asChar b)) = cs.head?.any p := by
  cases cs with
  | nil => rfl
  | cons c cs =>
    rw [List.head?_cons, Option.any_some, utf8_cons]
    rcases lt_or_ge c.toNat 128 with hc | hc
    · rw [utf8_singleton_of_lt hc, List.singleton_append, List.head?_cons, Option.any_some, asChar_toUInt8 hc]
    · obtain ⟨first, more, hencode⟩ := List.exists_cons_of_ne_nil (utf8_singleton_ne_nil c)
      have hfirst := le_of_mem_utf8_singleton hc first (hencode ▸ List.mem_cons_self)
      rw [hencode, List.cons_append, List.head?_cons, Option.any_some, test_asChar_eq_false hp hfirst,
        test_eq_false hp hc]

lemma any_getLast?_utf8 (cs : List Char) : ((utf8 cs).getLast?.any fun b => p (asChar b)) = cs.getLast?.any p := by
  rcases List.eq_nil_or_concat cs with rfl | ⟨front, c, rfl⟩
  · rfl
  · rw [List.concat_eq_append, List.getLast?_concat, Option.any_some, utf8_append]
    rcases lt_or_ge c.toNat 128 with hc | hc
    · rw [utf8_singleton_of_lt hc, List.getLast?_concat, Option.any_some, asChar_toUInt8 hc]
    · have hlast := le_of_mem_utf8_singleton hc _ (List.getLast_mem (utf8_singleton_ne_nil c))
      rw [List.getLast?_append, List.getLast?_eq_some_getLast (utf8_singleton_ne_nil c), Option.some_or,
        Option.any_some, test_asChar_eq_false hp hlast, test_eq_false hp hc]

end Test

/-- **An ASCII byte is a character of its own.** -/
lemma exists_split_of_getElem?_utf8 {cs : List Char} {i : Nat} {b : UInt8} (h : (utf8 cs)[i]? = some b)
    (hb : b.toNat < 128) : ∃ before after, cs = before ++ asChar b :: after ∧ i = (utf8 before).length := by
  induction cs generalizing i with
  | nil => simp at h
  | cons c cs ih =>
    rw [utf8_cons] at h
    rcases lt_or_ge i (utf8 [c]).length with hi | hi
    · rw [List.getElem?_append_left hi] at h
      rcases lt_or_ge c.toNat 128 with hc | hc
      · rw [utf8_singleton_of_lt hc] at h hi
        obtain rfl : i = 0 := Nat.lt_one_iff.1 hi
        obtain rfl : c.toUInt8 = b := Option.some.inj h
        exact ⟨[], cs, by rw [asChar_toUInt8 hc, List.nil_append], rfl⟩
      · exact absurd (le_of_mem_utf8_singleton hc b (List.mem_of_getElem? h)) (Nat.not_le.2 hb)
    · rw [List.getElem?_append_right hi] at h
      obtain ⟨before, after, rfl, hbefore⟩ := ih h
      refine ⟨c :: before, after, rfl, ?_⟩
      rw [utf8_cons, List.length_append]
      omega

/-! ### runs -/

/-- The position behind the characters of a kind from a position on. -/
def runEnd (p : Char → Bool) (bytes : List UInt8) (i : Nat) : Nat :=
  if _h : (bytes[i]?.any fun b => p (asChar b)) = true then runEnd p bytes (i + 1) else i
termination_by bytes.length - i
decreasing_by
  obtain ⟨b, hb, -⟩ := (Option.any_eq_true _ _).1 _h
  obtain ⟨hi, -⟩ := List.getElem?_eq_some_iff.1 hb
  omega

lemma le_runEnd (p : Char → Bool) (bytes : List UInt8) (i : Nat) : i ≤ runEnd p bytes i := by
  fun_induction runEnd p bytes i with
  | case1 i h ih => exact (Nat.le_succ i).trans ih
  | case2 i h => exact le_rfl

lemma runEnd_utf8 {p : Char → Bool} (hp : IsAsciiTest p) (done rest : List Char) :
    runEnd p (utf8 (done ++ rest)) (utf8 done).length = (utf8 (done ++ rest.takeWhile p)).length := by
  -- on what is left; a position is where the bytes of what has been passed end
  induction rest generalizing done with
  | nil => rw [runEnd, getElem?_utf8, dif_neg (by simp), List.takeWhile_nil, List.append_nil]
  | cons c rest ih =>
    rw [runEnd, getElem?_utf8, any_head?_utf8 hp, List.head?_cons, Option.any_some, List.takeWhile_cons]
    split_ifs with htest
    · have hnext := ih (done ++ [c])
      rwa [length_utf8_concat (hp c htest), ← List.append_cons, ← List.append_cons] at hnext
    · rw [List.append_nil]

/-! ### parts of a text -/

/-- Two positions in bytes stand in a text, in order and both at the boundary of a character. -/
structure IsRange (s : String) (start stop : Nat) : Prop where
  start_isValid : String.Pos.Raw.IsValid s ⟨start⟩
  stop_isValid : String.Pos.Raw.IsValid s ⟨stop⟩
  le : start ≤ stop

instance (s : String) (start stop : Nat) : Decidable (IsRange s start stop) :=
  decidable_of_iff (String.Pos.Raw.IsValid s ⟨start⟩ ∧ String.Pos.Raw.IsValid s ⟨stop⟩ ∧ start ≤ stop)
    ⟨fun ⟨hstart, hstop, hle⟩ => ⟨hstart, hstop, hle⟩, fun ⟨hstart, hstop, hle⟩ => ⟨hstart, hstop, hle⟩⟩

lemma IsRange.pos_le {s : String} {start stop : Nat} (h : IsRange s start stop) :
    s.pos ⟨start⟩ h.start_isValid ≤ s.pos ⟨stop⟩ h.stop_isValid :=
  String.Pos.le_iff.2 (String.Pos.Raw.le_iff.2 h.le)

/-- The part of a text between two positions in bytes; there is none between other positions than those of a range. -/
def slice? (s : String) (start stop : Nat) : Option String :=
  if h : IsRange s start stop then
    some (s.slice (s.pos ⟨start⟩ h.start_isValid) (s.pos ⟨stop⟩ h.stop_isValid) h.pos_le).copy
  else none

lemma isRange_of_slice? {s part : String} {start stop : Nat} (h : slice? s start stop = some part) :
    IsRange s start stop := by
  rw [slice?] at h
  split_ifs at h with hrange
  exact hrange

lemma length_utf8_toList (s : String) : (utf8 s.toList).length = s.utf8ByteSize := by
  rw [← data_toUTF8]
  rfl

lemma isValid_utf8 {s : String} {before after : List Char} (h : s.toList = before ++ after) :
    String.Pos.Raw.IsValid s ⟨(utf8 before).length⟩ := by
  have hs : s = String.ofList before ++ String.ofList after := by
    rw [← String.ofList_append, ← h, String.ofList_toList]
  refine String.Pos.Raw.isValid_iff_exists_append.2 ⟨_, _, hs, ?_⟩
  rw [String.Pos.Raw.ext_iff, String.byteIdx_rawEndPos, ← length_utf8_toList, String.toList_ofList]

/-- Characters of a text stand between the position behind those before them and the position behind them. -/
lemma slice?_utf8 {s : String} {before part after : List Char} (h : s.toList = before ++ (part ++ after)) :
    slice? s (utf8 before).length (utf8 (before ++ part)).length = some (String.ofList part) := by
  have hrange : IsRange s (utf8 before).length (utf8 (before ++ part)).length := by
    refine ⟨isValid_utf8 h, isValid_utf8 (h.trans (List.append_assoc ..).symm), ?_⟩
    rw [utf8_append, List.length_append]
    exact Nat.le_add_right _ _
  have hbytes := data_toUTF8 s
  have hpart := data_toUTF8 (String.ofList part)
  rw [String.toUTF8_eq_toByteArray] at hbytes hpart
  rw [slice?, dif_pos hrange, Option.some_inj, ← String.toByteArray_inj, String.toByteArray_copy_slice,
    ByteArray.ext_iff, ← Array.toList_inj, hpart, String.toList_ofList, ByteArray.data_extract, Array.toList_extract,
    hbytes, h, List.extract_eq_take_drop]
  rw [String.offset_pos, String.offset_pos, drop_utf8, length_utf8_append_sub, utf8_append, List.take_left]

end Text

end WarehouseSql
