import WarehouseSql.Json.Basic

/-!
JSON numbers.  A number without fraction and exponent is an integer while it fits 64 bits.  Every other number is
a double: the digits that fit 64 unsigned bits make a significand, the others only count, and the significand is
then multiplied or divided by a power of ten, each step rounded.
-/

namespace WarehouseSql

namespace Magnitude

/-- The product, rounded; none when it is too large. -/
def multiply? (x y : Magnitude) : Option Magnitude := ofRatio? (x.units * y.units) (unitsPerOne * unitsPerOne)

/-- The quotient, rounded; none when it is too large or the divisor is zero. -/
def divide? (x y : Magnitude) : Option Magnitude :=
  if y.units = 0 then none else ofRatio? x.units y.units

/-- The magnitude nearest to a power of ten. -/
def powerOfTen? (exponent : Nat) : Option Magnitude := ofRatio? (powerOfTen exponent) 1

/-- Divides by the largest power of ten below overflow as often as told, or until nothing is left. -/
def divideRepeatedly? (x : Magnitude) : Nat → Option Magnitude
  | 0 => some x
  | steps + 1 =>
    if x.significand = 0 then some x
    else ((powerOfTen? 308).bind x.divide?).bind fun smaller => smaller.divideRepeatedly? steps

/-- Divides by a power of ten, 308 powers at a time and the rest at the end. -/
def scaleDown? (x : Magnitude) (exponent : Nat) : Option Magnitude := do
  let steps := (exponent - 1) / 308
  let smaller ← x.divideRepeatedly? steps
  if smaller.significand = 0 then some smaller
  else (powerOfTen? (exponent - 308 * steps)).bind smaller.divide?

/-- The significand times a power of ten, rounded step by step; none when it is too large. -/
def scaled? (significand : Nat) (exponent : Int) : Option Magnitude := do
  let x ← ofRatio? significand 1
  if 0 ≤ exponent then
    if 308 < exponent then if x.significand = 0 then some x else none
    else (powerOfTen? exponent.toNat).bind x.multiply?
  else x.scaleDown? (-exponent).toNat

end Magnitude

namespace Json

structure NumberParts where
  negative : Bool
  whole : List Char
  fraction : Option (List Char)
  exponent : Option (Bool × List Char)

/-- Splits a number into its parts if it has the form of one: no superfluous zero in front, and digits wherever
there is a part. -/
def NumberParts.read? (cs : List Char) : Option NumberParts := do
  let (negative, unsigned) :=
    match cs with
    | '-' :: cs => (true, cs)
    | cs => (false, cs)
  let whole := unsigned.takeWhile Char.isDigit
  let rest := unsigned.dropWhile Char.isDigit
  match whole with
  | [] => none
  | '0' :: _ :: _ => none
  | _ =>
    let (fraction, rest) :=
      match rest with
      | '.' :: cs => (some (cs.takeWhile Char.isDigit), cs.dropWhile Char.isDigit)
      | cs => (none, cs)
    if fraction = some [] then none
    else
      match rest with
      | [] => some ⟨negative, whole, fraction, none⟩
      | mark :: cs =>
        if mark = 'e' ∨ mark = 'E' then
          let (down, ds) :=
            match cs with
            | '-' :: ds => (true, ds)
            | '+' :: ds => (false, ds)
            | ds => (false, ds)
          if ds.isEmpty || !ds.all Char.isDigit then none
          else some ⟨negative, whole, fraction, some (down, ds)⟩
        else none

/-- Appends digits to a significand while it fits 64 unsigned bits; gives the digits left over. -/
def appendDigits (significand : Nat) : List Char → Nat × List Char
  | [] => (significand, [])
  | d :: ds =>
    let next := significand * 10 + (d.toNat - '0'.toNat)
    if next < UInt64.size then appendDigits next ds else (significand, d :: ds)

/-- The number that the parts denote; none when it is too large. -/
def NumberParts.value? (parts : NumberParts) : Option Json :=
  let (significand, surplus) := appendDigits 0 parts.whole
  match parts.fraction, parts.exponent, surplus with
  | none, none, [] =>
    if !parts.negative then some (.int significand)
    else if significand = 0 ∨ powerOfTwo 63 < significand then
      some (.float (Binary64.ofRatio true significand 1))
    else some (.int (-(significand : Int)))
  | fraction, exponent, surplus =>
    let places := fraction.getD []
    let (significand, unread) := appendDigits significand places
    let shift : Int := surplus.length - (places.length - unread.length : Nat)
    let power : Int :=
      match exponent with
      | none => 0
      | some (down, ds) => if down then -(Decimal.ofDigits ds : Int) else Decimal.ofDigits ds
    (Magnitude.scaled? significand (shift + power)).map fun x => .float (.finite parts.negative x)

end Json

end WarehouseSql
