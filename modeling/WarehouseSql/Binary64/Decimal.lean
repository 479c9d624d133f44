import WarehouseSql.Binary64.Basic

/-!
Decimal numbers and how they meet the doubles.  `Decimal.round` is the double nearest to a decimal;
`Magnitude.shortest` is the decimal with the fewest digits that rounds back, of those the nearest.
-/

namespace WarehouseSql

/-- The number `significand * 10 ^ exponent`. -/
structure Decimal where
  significand : Nat
  exponent : Int
deriving DecidableEq

def powerOfTen (exponent : Nat) : Nat := Nat.pow 10 exponent

namespace Decimal

def digits (n : Nat) : List Char := Nat.toDigits 10 n

/-- The whole number that a row of decimal digits denotes. -/
def ofDigits (cs : List Char) : Nat := cs.foldl (fun n c => n * 10 + (c.toNat - '0'.toNat)) 0

/-- The double nearest to a signed decimal.  Beyond 310 digits before the point it is infinite, below 330
zeros after the point it is zero, and no power of ten is computed. -/
def round (negative : Bool) (d : Decimal) : Binary64 :=
  if d.significand = 0 then .finite negative .zero
  else
    let top : Int := (digits d.significand).length + d.exponent
    if 310 < top then .infinite negative
    else if top < -330 then .finite negative .zero
    else if 0 ≤ d.exponent then Binary64.ofRatio negative (d.significand * powerOfTen d.exponent.toNat) 1
    else Binary64.ofRatio negative d.significand (powerOfTen (-d.exponent).toNat)

end Decimal

/-- Which of two equally near candidates is taken. -/
inductive TieRule where
  | up
  | even
deriving DecidableEq

namespace Magnitude

/-- The ends of the interval of numbers that round to a magnitude, in quarters of a unit. -/
def interval (x : Magnitude) : Nat × Nat :=
  let center := 4 * x.units
  let gap := powerOfTwo x.scale
  let below := if x.significand = powerOfTwo 52 ∧ 0 < x.scale then gap else 2 * gap
  (center - below, center + 2 * gap)

/-- Whether a decimal rounds to a magnitude; the ends of the interval count for an even significand. -/
def admits (x : Magnitude) (d : Decimal) : Bool :=
  let (low, high) := x.interval
  let up := powerOfTen d.exponent.toNat * (4 * unitsPerOne)
  let down := powerOfTen (-d.exponent).toNat
  let point := d.significand * up
  if x.significand % 2 = 0 then decide (low * down ≤ point) && decide (point ≤ high * down)
  else decide (low * down < point) && decide (point < high * down)

/-- The exponent of the power of ten just above a magnitude other than zero. -/
def decimalTop (x : Magnitude) : Int :=
  ((Decimal.digits (x.units * powerOfTen 330 / unitsPerOne)).length : Int) - 330

/-- The neighbours of a magnitude on the grid of decimals with a given exponent that round back to it, the
nearer one if both do. -/
def onGrid? (x : Magnitude) (tie : TieRule) (exponent : Int) : Option Decimal :=
  let num := x.units * powerOfTen (-exponent).toNat
  let den := unitsPerOne * powerOfTen exponent.toNat
  let low : Decimal := ⟨num / den, exponent⟩
  let high : Decimal := ⟨num / den + 1, exponent⟩
  let twice := 2 * (num % den)
  match x.admits low, x.admits high with
  | false, false => none
  | true, false => some low
  | false, true => some high
  | true, true =>
    if twice < den then some low
    else if den < twice then some high
    else
      match tie with
      | .up => some high
      | .even => if low.significand % 2 = 0 then some low else some high

/-- Drops the zeros at the end of a significand, at most `limit` of them. -/
def stripZeros (d : Decimal) : Nat → Decimal
  | 0 => d
  | limit + 1 =>
    if d.significand ≠ 0 ∧ d.significand % 10 = 0 then
      stripZeros ⟨d.significand / 10, d.exponent + 1⟩ limit
    else d

/-- The decimal with the fewest digits that rounds back to a magnitude.  Seventeen digits are always enough; the
last case is the exact decimal. -/
def shortest (x : Magnitude) (tie : TieRule) : Decimal :=
  if x.significand = 0 then ⟨0, 0⟩
  else
    let top := x.decimalTop
    match (List.range 17).findSome? fun count => x.onGrid? tie (top - (count + 1 : Nat)) with
    | some d => stripZeros d 17
    | none => ⟨x.units * Nat.pow 5 1074, -1074⟩

end Magnitude

/-! ### written forms -/

namespace Decimal

/-- Digits without an exponent, with a point only before a fraction. -/
def plain (d : Decimal) : String :=
  let ds := digits d.significand
  if 0 ≤ d.exponent then String.ofList (ds ++ List.replicate d.exponent.toNat '0')
  else
    let places := (-d.exponent).toNat
    let padded := List.replicate (places + 1 - ds.length) '0' ++ ds
    let whole := padded.length - places
    String.ofList (padded.take whole ++ '.' :: padded.drop whole)

/-- One digit before the point, the exponent with its sign. -/
def scientific (d : Decimal) : String :=
  let ds := digits d.significand
  let exponent : Int := d.exponent + (ds.length - 1 : Nat)
  let sign := if exponent < 0 then '-' else '+'
  let mantissa :=
    match ds with
    | [] => []
    | [digit] => [digit]
    | digit :: more => digit :: '.' :: more
  String.ofList (mantissa ++ 'e' :: sign :: digits exponent.natAbs)

/-- The exponent of the leading digit. -/
def leadingExponent (d : Decimal) : Int := d.exponent + ((digits d.significand).length - 1 : Nat)

end Decimal

namespace Binary64

/-- A minus sign where one is due. -/
def signed (negative : Bool) (text : String) : String := if negative then "-" ++ text else text

/-- The shortest positional text, without a point on whole numbers; a tie goes up. -/
def text : Binary64 → String
  | .nan => "NaN"
  | .infinite negative => signed negative "inf"
  | .finite negative magnitude => signed negative (magnitude.shortest .up).plain

/-- The shortest text that is visibly not an integer: positional while the leading exponent is from -5 to 15,
else with an exponent; a tie goes to the even digit. -/
def pointText? : Binary64 → Option String
  | .nan => none
  | .infinite _ => none
  | .finite negative magnitude =>
    let d := magnitude.shortest .even
    let e := d.leadingExponent
    some <| signed negative <|
      if 16 ≤ e ∨ e < -5 then d.scientific
      else if 0 ≤ d.exponent then d.plain ++ ".0"
      else d.plain

end Binary64

end WarehouseSql
