import WarehouseSql.Text.CaseTable

/-!
Letter case.  `upper` and `lower` are the full Unicode mappings, in which one character may become several
and a capital sigma at the end of a word becomes a final sigma; `asciiLower` touches the letters A to Z only.
-/

namespace WarehouseSql.Text

/-- The character `shift` code points after `c`; letters keep within ASCII. -/
def shiftChar (c : Char) (shift : Int) : Char := Char.ofNat (c.toNat + shift).toNat

/-- A mapping by table: an expansion, else a run, else the character itself. -/
def mapByTable (expansions : List (Nat × List Nat)) (runs : List CaseRun) (c : Char) : List Char :=
  match expansions.lookup c.toNat with
  | some codes => codes.map Char.ofNat
  | none =>
    match runs.findSome? (·.image? c.toNat) with
    | some code => [Char.ofNat code]
    | none => [c]

def upperChar (c : Char) : List Char :=
  if c.toNat < 128 then
    if 'a' ≤ c ∧ c ≤ 'z' then [shiftChar c (-32)] else [c]
  else mapByTable upperExpansions upperRuns c

/-- The lower-case form of one character, wherever it stands. -/
def lowerChar (c : Char) : List Char :=
  if c.toNat < 128 then
    if 'A' ≤ c ∧ c ≤ 'Z' then [shiftChar c 32] else [c]
  else mapByTable lowerExpansions lowerRuns c

/-- Whether the first character that casing does not look through is cased. -/
def reachesCased : List Char → Bool
  | [] => false
  | c :: cs =>
    if inRanges caseIgnorableRanges c.toNat then reachesCased cs else inRanges casedRanges c.toNat

/-- Lower case of the rest of a text; `before` is the text so far, last character first. -/
def lowerAfter (before : List Char) : List Char → List Char
  | [] => []
  | c :: cs =>
    let image :=
      if c = 'Σ' then
        if reachesCased before && !reachesCased cs then ['ς'] else ['σ']
      else lowerChar c
    image ++ lowerAfter (c :: before) cs

/-! ### on texts -/

def upper (s : String) : String := String.ofList (s.toList.flatMap upperChar)

def lower (s : String) : String := String.ofList (lowerAfter [] s.toList)

/-- Lower case of the letters A to Z; all else stays. -/
def asciiLower (s : String) : String := String.ofList (s.toList.map Char.toLower)

end WarehouseSql.Text
