/-!
Cutting a text at a separator and joining pieces: dotted names, arrow selectors and lists of SQL.
-/

namespace WarehouseSql.Text

/-! ### cutting -/

/-- The pieces between the occurrences of a character; one piece more than occurrences. -/
def splitOnChar (sep : Char) : List Char → List (List Char)
  | [] => [[]]
  | c :: cs =>
    if c = sep then [] :: splitOnChar sep cs
    else
      match splitOnChar sep cs with
      | [] => [[c]]
      | piece :: pieces => (c :: piece) :: pieces

/-- The dotted segments of a name. -/
def dotted (s : String) : List String := (splitOnChar '.' s.toList).map String.ofList

/-- The parts before and after the first `->`, if there is one. -/
def cutAtArrow : List Char → Option (List Char × List Char)
  | [] => none
  | '-' :: '>' :: cs => some ([], cs)
  | c :: cs => (cutAtArrow cs).map fun parts => (c :: parts.1, parts.2)

/-- The pieces between the occurrences of `->`, taken from the left. -/
def splitOnArrow : List Char → List (List Char)
  | [] => [[]]
  | '-' :: '>' :: cs => [] :: splitOnArrow cs
  | c :: cs =>
    match splitOnArrow cs with
    | [] => [[c]]
    | piece :: pieces => (c :: piece) :: pieces

theorem splitOnChar_ne_nil (sep : Char) (cs : List Char) : splitOnChar sep cs ≠ [] := by
  cases cs with
  | nil => simp [splitOnChar]
  | cons c cs =>
    simp only [splitOnChar]
    split
    · simp
    · split <;> simp

theorem dotted_ne_nil (s : String) : dotted s ≠ [] := fun h =>
  splitOnChar_ne_nil '.' s.toList (List.map_eq_nil_iff.1 h)

/-! ### searching -/

def contains (part : List Char) : List Char → Bool
  | [] => part.isEmpty
  | c :: cs => part.isPrefixOf (c :: cs) || contains part cs

/-! ### joining -/

def commaList (pieces : List String) : String := String.intercalate ", " pieces

theorem intercalate_cons (separator first : String) (rest : List String) :
    String.intercalate separator (first :: rest) = first ++ String.join (rest.map (separator ++ ·)) := by
  induction rest generalizing first with
  | nil => rw [String.intercalate_singleton, List.map_nil, String.join_nil, String.append_empty]
  | cons second rest ih =>
    rw [String.intercalate_cons_cons, ih, List.map_cons, String.join_cons, String.append_assoc, String.append_assoc]

end WarehouseSql.Text
