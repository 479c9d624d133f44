/-!
White space and trimming.  `trim` takes off every character with the Unicode property White_Space at both
ends; the narrower class `isAsciiBlank` separates the words of an alias.
-/

namespace WarehouseSql.Text

/-- The Unicode property White_Space. -/
def isBlank (c : Char) : Bool :=
  let n := c.toNat
  (9 ≤ n && n ≤ 13) || n == 0x20 || n == 0x85 || n == 0xa0 || n == 0x1680 || (0x2000 ≤ n && n ≤ 0x200a)
    || n == 0x2028 || n == 0x2029 || n == 0x202f || n == 0x205f || n == 0x3000

/-- Space, tab, line feed, form feed or carriage return. -/
def isAsciiBlank (c : Char) : Bool :=
  c == ' ' || c == '\t' || c == '\n' || c == '\x0c' || c == '\r'

theorem isBlank_of_isAsciiBlank {c : Char} (h : isAsciiBlank c = true) : isBlank c = true := by
  simp only [isAsciiBlank, Bool.or_eq_true, beq_iff_eq] at h
  rcases h with (((rfl | rfl) | rfl) | rfl) | rfl <;> rfl

/-! ### trimming -/

def trimStartChars (cs : List Char) : List Char := cs.dropWhile isBlank

def trimEndChars : List Char → List Char
  | [] => []
  | c :: cs =>
    match trimEndChars cs with
    | [] => if isBlank c then [] else [c]
    | kept => c :: kept

/-- The characters between the blanks at both ends. -/
def trimChars (cs : List Char) : List Char := trimEndChars (trimStartChars cs)

/-- A text without the blanks at its ends. -/
def trim (s : String) : String := String.ofList (trimChars s.toList)

theorem trimEndChars_append_blanks (cs : List Char) :
    ∃ blanks, trimEndChars cs ++ blanks = cs ∧ blanks.all isBlank = true := by
  induction cs with
  | nil => exact ⟨[], rfl, rfl⟩
  | cons c cs ih =>
    obtain ⟨blanks, hcs, hblanks⟩ := ih
    simp only [trimEndChars]
    split
    · next h =>
      rw [h, List.nil_append] at hcs
      by_cases hc : isBlank c = true
      · exact ⟨c :: blanks, by simp [hc, hcs], by simp_all⟩
      · exact ⟨blanks, by simp [hc, hcs], hblanks⟩
    · next kept _ => exact ⟨blanks, by simp [hcs], hblanks⟩

theorem length_trimEndChars_le (cs : List Char) : (trimEndChars cs).length ≤ cs.length := by
  obtain ⟨blanks, h, _⟩ := trimEndChars_append_blanks cs
  have := congrArg List.length h
  simp at this
  omega

end WarehouseSql.Text
