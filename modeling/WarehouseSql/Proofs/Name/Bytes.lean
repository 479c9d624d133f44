import WarehouseSql.Proofs.Name.Aliases
import WarehouseSql.Proofs.Template.Bytes

/-!
Names split by bytes.  The search for the last keyword goes through the UTF-8 of a name by positions
(`Name.lastKeyword?`); a keyword begins and ends with an ASCII byte, so the name is split before and behind whole
characters (`Name.splitBytes?_eq`).  **Neither names nor statements are cut inside a character**
(`cuts_at_boundaries`).
-/

namespace WarehouseSql

open Text (utf8 asChar slice? IsRange isAsciiBlank trimEndChars trimStartChars)

namespace Name

/-! ### the search -/

def isLetterA (c : Char) : Bool := c == 'a' || c == 'A'

def isLetterS (c : Char) : Bool := c == 's' || c == 'S'

/-- Whether a keyword stands at a position, with white space on both sides. -/
def isKeywordAt (bytes : List UInt8) (i : Nat) : Bool :=
  (bytes[i]?.any fun b => isLetterA (asChar b)) && (bytes[i + 1]?.any fun b => isLetterS (asChar b)) &&
    (bytes[i - 1]?.any fun b => isAsciiBlank (asChar b)) && (bytes[i + 2]?.any fun b => isAsciiBlank (asChar b))

/-- The position of the last keyword from a position on, else the one found before. -/
def lastKeyword? (bytes : List UInt8) (i : Nat) (found : Option Nat) : Option Nat :=
  if i + 2 < bytes.length then lastKeyword? bytes (i + 1) (if isKeywordAt bytes i then some i else found) else found
termination_by bytes.length - i

/-- The name and the alias of a name that has one; nothing comes of it if a part does not end at the boundary of a
character. -/
def splitBytes? (name : String) : Option (Option (String × String)) :=
  match lastKeyword? name.toUTF8.data.toList 1 none with
  | none => some none
  | some i => do
    let before ← slice? name 0 i
    let after ← slice? name (i + 2) name.utf8ByteSize
    let left := trimEndChars before.toList
    let right := trimStartChars after.toList
    return if left.isEmpty || right.isEmpty then none else some (String.ofList left, String.ofList right)

lemma lastKeyword?_cases (bytes : List UInt8) (i : Nat) (found : Option Nat) :
    (∃ k, lastKeyword? bytes i found = some k ∧ i ≤ k ∧ isKeywordAt bytes k = true ∧
        ∀ j, i ≤ j → isKeywordAt bytes j = true → j ≤ k) ∨
      lastKeyword? bytes i found = found ∧ ∀ j, i ≤ j → isKeywordAt bytes j = false := by
  fun_induction lastKeyword? bytes i found with
  | case1 i found hi ih =>
    rcases ih with ⟨k, hk, hik, hkeyword, hlast⟩ | ⟨hfound, hnone⟩
    · -- a later keyword replaces what stands here
      refine .inl ⟨k, hk, (Nat.le_succ i).trans hik, hkeyword, fun j hij hj => ?_⟩
      rcases hij.eq_or_lt with rfl | hlt
      · exact (Nat.le_succ i).trans hik
      · exact hlast j hlt hj
    · by_cases hkeyword : isKeywordAt bytes i = true
      · rw [dif_pos hkeyword] at hfound
        rw [if_pos hkeyword]
        refine .inl ⟨i, hfound, le_rfl, hkeyword, fun j hij hj => ?_⟩
        rcases hij.eq_or_lt with rfl | hlt
        · exact le_rfl
        · exact absurd hj (Bool.eq_false_iff.1 (hnone j hlt))
      · rw [dif_neg hkeyword] at hfound
        rw [if_neg hkeyword]
        refine .inr ⟨hfound, fun j hij => ?_⟩
        rcases hij.eq_or_lt with rfl | hlt
        · exact Bool.eq_false_iff.2 hkeyword
        · exact hnone j hlt
  | case2 i found hi =>
    refine .inr ⟨rfl, fun j hij => Bool.eq_false_iff.2 fun hj => ?_⟩
    obtain ⟨b, hb, -⟩ := (Option.any_eq_true _ _).1 (Bool.and_eq_true_iff.1 hj).2
    have hlt := (List.getElem?_eq_some_iff.1 hb).1
    omega

/-! ### keywords by bytes -/

lemma isLetterA_iff {c : Char} : isLetterA c = true ↔ c = 'a' ∨ c = 'A' := by simp [isLetterA]

lemma isLetterS_iff {c : Char} : isLetterS c = true ↔ c = 's' ∨ c = 'S' := by simp [isLetterS]

lemma isAsciiTest_isLetterA : Text.IsAsciiTest isLetterA := by
  intro c h
  rcases isLetterA_iff.1 h with rfl | rfl <;> decide

lemma isAsciiTest_isLetterS : Text.IsAsciiTest isLetterS := by
  intro c h
  rcases isLetterS_iff.1 h with rfl | rfl <;> decide

lemma isAsciiTest_isAsciiBlank : Text.IsAsciiTest isAsciiBlank := by
  intro c h
  simp only [isAsciiBlank, Bool.or_eq_true, beq_iff_eq] at h
  rcases h with (((rfl | rfl) | rfl) | rfl) | rfl <;> decide

/-- A keyword stands behind the first characters of a text exactly if it does so by bytes. -/
lemma isKeywordAt_split {before : List Char} (hbefore : before ≠ []) {a : Char} (ha : a.toNat < 128)
    (rest : List Char) :
    isKeywordAt (utf8 (before ++ a :: rest)) (utf8 before).length = true ↔
      ∃ after, HasKeyword (before ++ a :: rest) before after := by
  have hahead {s : Char} (hs : isLetterS s = true) (after : List Char) :
      (utf8 (before ++ a :: s :: after))[(utf8 before).length + 2]? = (utf8 after).head? := by
    have hbehind := Text.getElem?_utf8_succ (isAsciiTest_isLetterS s hs) (before ++ [a]) after
    rwa [Text.length_utf8_concat ha, ← List.append_cons] at hbehind
  rw [isKeywordAt, Bool.and_eq_true, Bool.and_eq_true, Bool.and_eq_true, Text.getElem?_utf8,
    Text.any_head?_utf8 isAsciiTest_isLetterA, List.head?_cons, Option.any_some, Text.getElem?_utf8_succ ha,
    Text.any_head?_utf8 isAsciiTest_isLetterS, Text.getElem?_utf8_pred hbefore,
    Text.any_getLast?_utf8 isAsciiTest_isAsciiBlank, Option.any_eq_true, Option.any_eq_true]
  constructor
  · rintro ⟨⟨⟨hletter, s, hhead, hs⟩, hblank⟩, hnext⟩
    obtain ⟨after, rfl⟩ := List.head?_eq_some_iff.1 hhead
    rw [hahead hs, Text.any_head?_utf8 isAsciiTest_isAsciiBlank, Option.any_eq_true] at hnext
    exact ⟨after, ⟨a, s, rfl, isLetterA_iff.1 hletter, isLetterS_iff.1 hs⟩, hblank, hnext⟩
  · rintro ⟨after, ⟨letter, s, hword, hletter, hs⟩, hblank, hnext⟩
    obtain ⟨rfl, rfl⟩ := List.cons.inj (List.append_cancel_left hword)
    refine ⟨⟨⟨isLetterA_iff.2 hletter, s, rfl, isLetterS_iff.2 hs⟩, hblank⟩, ?_⟩
    rw [hahead (isLetterS_iff.2 hs), Text.any_head?_utf8 isAsciiTest_isAsciiBlank, Option.any_eq_true]
    exact hnext

lemma isKeywordAt_iff {cs : List Char} {i : Nat} (hi : 1 ≤ i) :
    isKeywordAt (utf8 cs) i = true ↔ ∃ before after, HasKeyword cs before after ∧ i = (utf8 before).length := by
  constructor
  · intro h
    -- the first byte of the keyword is a character of its own
    have hword := (Bool.and_eq_true_iff.1 (Bool.and_eq_true_iff.1 (Bool.and_eq_true_iff.1 h).1).1).1
    obtain ⟨b, hb, hletter⟩ := (Option.any_eq_true _ _).1 hword
    have hascii := isAsciiTest_isLetterA _ hletter
    obtain ⟨before, rest, rfl, rfl⟩ := Text.exists_split_of_getElem?_utf8 hb (Text.toNat_asChar b ▸ hascii)
    have hbefore : before ≠ [] := fun hnil => by simp [hnil] at hi
    obtain ⟨after, hkeyword⟩ := (isKeywordAt_split hbefore hascii rest).1 h
    exact ⟨before, after, hkeyword, rfl⟩
  · rintro ⟨before, after, hkeyword, rfl⟩
    obtain ⟨a, s, rfl, ha, -⟩ := hkeyword.word
    have hbefore : before ≠ [] := fun hnil => by simp [hnil] at hi
    have hascii := isAsciiTest_isLetterA a (isLetterA_iff.2 ha)
    exact (isKeywordAt_split hbefore hascii _).2 ⟨after, hkeyword⟩

lemma HasKeyword.ne_nil {cs before after : List Char} (h : HasKeyword cs before after) : before ≠ [] := by
  obtain ⟨c, hc, -⟩ := h.behind
  rintro rfl
  cases hc

/-- Of two keywords of a text the one in front takes up fewer bytes before it. -/
lemma length_utf8_le {cs before after sooner later : List Char} (h : HasKeyword cs before after)
    (h' : HasKeyword cs sooner later) (hle : sooner.length ≤ before.length) :
    (utf8 sooner).length ≤ (utf8 before).length := by
  obtain ⟨a, s, hcs, -⟩ := h.word
  obtain ⟨a', s', hcs', -⟩ := h'.word
  obtain ⟨between, rfl⟩ := List.prefix_of_prefix_length_le ⟨_, hcs'.symm⟩ ⟨_, hcs.symm⟩ hle
  rw [Text.utf8_append, List.length_append]
  exact Nat.le_add_right _ _

/-- **The last keyword by bytes is the last one by characters.** -/
lemma lastKeyword?_utf8 (cs : List Char) :
    lastKeyword? (utf8 cs) 1 none = (cutAtKeyword cs).map fun parts => (utf8 parts.1).length := by
  have hpos {before after : List Char} (h : HasKeyword cs before after) : 1 ≤ (utf8 before).length :=
    Nat.pos_of_ne_zero fun hzero => h.ne_nil (Text.length_utf8_eq_zero_iff.1 hzero)
  have hat {before after : List Char} (h : HasKeyword cs before after) :
      isKeywordAt (utf8 cs) (utf8 before).length = true := (isKeywordAt_iff (hpos h)).2 ⟨before, after, h, rfl⟩
  rcases cutAtKeyword_spec cs with ⟨hcut, hno⟩ | ⟨before, after, hcut, hlast⟩
  · rw [hcut, Option.map_none]
    rcases lastKeyword?_cases (utf8 cs) 1 none with ⟨k, -, hk, hkeyword, -⟩ | ⟨hnone, -⟩
    · obtain ⟨before, after, h, -⟩ := (isKeywordAt_iff hk).1 hkeyword
      exact absurd h (hno before after)
    · exact hnone
  · rw [hcut, Option.map_some]
    have hkeyword := hlast.toHasKeyword
    rcases lastKeyword?_cases (utf8 cs) 1 none with ⟨k, hk, hle, hkat, hbehind⟩ | ⟨-, hnone⟩
    · obtain ⟨sooner, later, hsooner, rfl⟩ := (isKeywordAt_iff hle).1 hkat
      have hback := length_utf8_le hkeyword hsooner (hlast.last sooner later hsooner)
      rw [hk, hback.antisymm (hbehind _ (hpos hkeyword) (hat hkeyword))]
    · exact absurd (hat hkeyword) (Bool.eq_false_iff.1 (hnone _ (hpos hkeyword)))

/-- The parts around the last keyword stand between boundaries of characters. -/
lemma slice?_of_cutAtKeyword {name : String} {before after : List Char}
    (h : cutAtKeyword name.toList = some (before, after)) :
    slice? name 0 (utf8 before).length = some (String.ofList before) ∧
      slice? name ((utf8 before).length + 2) name.utf8ByteSize = some (String.ofList after) := by
  obtain ⟨a, s, hword, hname⟩ := append_of_cutAtKeyword h
  obtain ⟨ha, hs⟩ := spellsAs_iff.1 hword
  have hbehind : (utf8 (before ++ [a] ++ [s])).length = (utf8 before).length + 2 := by
    rw [Text.length_utf8_concat (isAsciiTest_isLetterS s (isLetterS_iff.2 hs)),
      Text.length_utf8_concat (isAsciiTest_isLetterA a (isLetterA_iff.2 ha))]
  have hwhole : name.toList = before ++ [a] ++ [s] ++ (after ++ []) := by simp [hname]
  have hbefore := Text.slice?_utf8 (hname.trans (List.nil_append _).symm)
  have hafter := Text.slice?_utf8 hwhole
  refine ⟨hbefore, ?_⟩
  rwa [hbehind, ← List.append_nil after, ← hwhole, Text.length_utf8_toList, List.append_nil] at hafter

/-- **A name is split by bytes as it is by characters.** -/
lemma splitBytes?_eq (name : String) : splitBytes? name = some (splitAlias? name) := by
  rw [splitBytes?, Text.data_toUTF8, lastKeyword?_utf8, splitAlias?, splitAliasChars?]
  cases hcut : cutAtKeyword name.toList with
  | none => rfl
  | some parts =>
    obtain ⟨hbefore, hafter⟩ := slice?_of_cutAtKeyword hcut
    simp only [Option.map_some, hbefore, hafter, Option.bind_eq_bind, Option.bind_some, String.toList_ofList]
    split_ifs <;> rfl

lemma isRange_of_lastKeyword? {name : String} {i : Nat} (h : lastKeyword? name.toUTF8.data.toList 1 none = some i) :
    IsRange name 0 i ∧ IsRange name (i + 2) name.utf8ByteSize := by
  rw [Text.data_toUTF8, lastKeyword?_utf8] at h
  obtain ⟨parts, hcut, rfl⟩ := Option.map_eq_some_iff.1 h
  obtain ⟨hbefore, hafter⟩ := slice?_of_cutAtKeyword hcut
  exact ⟨Text.isRange_of_slice? hbefore, Text.isRange_of_slice? hafter⟩

end Name

/-- **Neither a statement nor a name is cut inside a character.**  What a scan by bytes cuts out of them stands between
boundaries of characters, in order, and is what the template of the statement and the two parts of the name are. -/
theorem cuts_at_boundaries (s : String) :
    (Template.readCuts s (Template.cuts s) = some (Template.parse s).segments ∧
        ∀ cut ∈ Template.cuts s, cut.IsWithin s) ∧
      Name.splitBytes? s = some (Name.splitAlias? s) ∧
        ∀ i ∈ Name.lastKeyword? s.toUTF8.data.toList 1 none, IsRange s 0 i ∧ IsRange s (i + 2) s.utf8ByteSize := by
  have hread := Template.readCuts_cuts s
  exact ⟨⟨hread, Template.isWithin_of_readCuts hread⟩, Name.splitBytes?_eq s, fun _ => Name.isRange_of_lastKeyword?⟩

/-- A backslash takes the scan into the second character between the quotes, which has two bytes. -/
theorem cuts_at_boundaries_escaped :
    Template.cuts "'\\é' ? as n" = [.text 0 6, .positional, .text 7 12] ∧
      (IsRange "'\\é' ? as n" 0 6 ∧ IsRange "'\\é' ? as n" 7 12) ∧
      Name.lastKeyword? "'\\é' ? as n".toUTF8.data.toList 1 none = some 8 ∧
      IsRange "'\\é' ? as n" 0 8 ∧ IsRange "'\\é' ? as n" 10 "'\\é' ? as n".utf8ByteSize := by
  have hcuts : Template.cuts "'\\é' ? as n" = [.text 0 6, .positional, .text 7 12] := by decide +kernel
  have hkeyword : Name.lastKeyword? "'\\é' ? as n".toUTF8.data.toList 1 none = some 8 := by decide +kernel
  obtain ⟨⟨-, hwithin⟩, -, hparts⟩ := cuts_at_boundaries "'\\é' ? as n"
  rw [hcuts] at hwithin
  exact ⟨hcuts, ⟨hwithin (.text 0 6) (by decide), hwithin (.text 7 12) (by decide)⟩, hkeyword, hparts 8 hkeyword⟩

end WarehouseSql
