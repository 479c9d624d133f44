import WarehouseSql.Text.Blank
import WarehouseSql.Binary64.Decimal

/-!
Decimal numerals in ASCII: an optional sign, digits with an optional point, an optional exponent.
`isNumeral` accepts a numeral between white space and nothing else.
-/

namespace WarehouseSql

/-- The 64-bit integer of a value, if there is one. -/
def int64OfInt? (n : Int) : Option Int64 :=
  if Int64.minValue.toInt ≤ n ∧ n ≤ Int64.maxValue.toInt then some (Int64.ofInt n) else none

/-- A numeral as written; `fraction` and `exponent` tell an absent part from an empty one. -/
structure Numeral where
  negative : Bool
  whole : List Char
  fraction : Option (List Char)
  exponent : Option Int
deriving DecidableEq

namespace Numeral

/-- Takes an optional sign off; `true` is minus. -/
def takeSign : List Char → Bool × List Char
  | '-' :: cs => (true, cs)
  | '+' :: cs => (false, cs)
  | cs => (false, cs)

/-- Takes the digits of the fraction off, if a point comes first. -/
def takeFraction : List Char → Option (List Char) × List Char
  | '.' :: cs => (some (cs.takeWhile Char.isDigit), cs.dropWhile Char.isDigit)
  | cs => (none, cs)

/-- A signed row of digits that ends the text. -/
def readExponent? (cs : List Char) : Option Int :=
  let (negative, ds) := takeSign cs
  if ds.isEmpty || !ds.all Char.isDigit then none
  else some (if negative then -(Decimal.ofDigits ds : Int) else Decimal.ofDigits ds)

/-- Reads a whole text as a numeral. -/
def read? (cs : List Char) : Option Numeral :=
  let (negative, unsigned) := takeSign cs
  let whole := unsigned.takeWhile Char.isDigit
  let (fraction, rest) := takeFraction (unsigned.dropWhile Char.isDigit)
  if whole.isEmpty && (fraction.getD []).isEmpty then none
  else
    match rest with
    | [] => some ⟨negative, whole, fraction, none⟩
    | mark :: more =>
      if mark = 'e' ∨ mark = 'E' then
        (readExponent? more).map fun exponent => ⟨negative, whole, fraction, some exponent⟩
      else none

/-- The magnitude that a numeral denotes, exactly. -/
def decimal (n : Numeral) : Decimal :=
  let fraction := n.fraction.getD []
  ⟨Decimal.ofDigits (n.whole ++ fraction), n.exponent.getD 0 - fraction.length⟩

/-- The double nearest to a numeral. -/
def toBinary64 (n : Numeral) : Binary64 := n.decimal.round n.negative

/-- The integer of a numeral without point and exponent, if it fits 64 signed bits. -/
def toInt64? (n : Numeral) : Option Int64 :=
  if n.fraction.isSome || n.exponent.isSome then none
  else
    let magnitude : Int := Decimal.ofDigits n.whole
    int64OfInt? (if n.negative then -magnitude else magnitude)

end Numeral

/-- A double from its text: a numeral, or a word for infinity or for no number. -/
def Binary64.parse? (text : String) : Option Binary64 :=
  let cs := text.toList
  match Numeral.read? cs with
  | some numeral => some numeral.toBinary64
  | none =>
    let (negative, rest) := Numeral.takeSign cs
    let word := String.ofList (rest.map Char.toLower)
    if word = "inf" ∨ word = "infinity" then some (.infinite negative)
    else if word = "nan" then some .nan
    else none

/-- Whether a text is a numeral with white space around it at most. -/
def isNumeral (s : String) : Bool := (Numeral.read? (Text.trimChars s.toList)).isSome

end WarehouseSql
