/-!
Double-precision numbers as exact data.  A magnitude is a whole number of units of `2 ^ -1074`, kept as a
significand of at most 53 bits and a power of two; `Magnitude.ofRatio?` is the one place where a number is
rounded, to the nearest magnitude and on a tie to the even significand.
-/

namespace WarehouseSql

def powerOfTwo (exponent : Nat) : Nat := Nat.pow 2 exponent

/-- A finite magnitude, `significand * 2 ^ scale` units, in its only form: full width or the smallest scale. -/
structure Magnitude where
  significand : Nat
  scale : Nat
  canonical : significand < powerOfTwo 53 ∧ scale ≤ 2045 ∧ (scale = 0 ∨ powerOfTwo 52 ≤ significand)
deriving DecidableEq

/-- A double-precision number; zero has both signs. -/
inductive Binary64 where
  | nan
  | infinite (negative : Bool)
  | finite (negative : Bool) (magnitude : Magnitude)
deriving DecidableEq

namespace Magnitude

def unitsPerOne : Nat := powerOfTwo 1074

def units (x : Magnitude) : Nat := x.significand * powerOfTwo x.scale

def zero : Magnitude := ⟨0, 0, by decide⟩

instance : Inhabited Magnitude := ⟨zero⟩

/-- The magnitude with a given form, if the form is canonical. -/
def mk? (significand scale : Nat) : Option Magnitude :=
  if h : significand < powerOfTwo 53 ∧ scale ≤ 2045 ∧ (scale = 0 ∨ powerOfTwo 52 ≤ significand) then
    some ⟨significand, scale, h⟩
  else none

/-- The whole number nearest to a ratio; a half goes to the even neighbour. -/
def divideToEven (num den : Nat) : Nat :=
  let quotient := num / den
  let twice := 2 * (num % den)
  if twice < den then quotient
  else if den < twice then quotient + 1
  else if quotient % 2 = 0 then quotient else quotient + 1

/-- The magnitude nearest to the ratio of two whole numbers; none when it is too large. -/
def ofRatio? (num den : Nat) : Option Magnitude :=
  let scaled := num * unitsPerOne
  let scale := Nat.log2 (scaled / den) - 52
  let significand := divideToEven scaled (den * powerOfTwo scale)
  if significand = powerOfTwo 53 then mk? (powerOfTwo 52) (scale + 1) else mk? significand scale

end Magnitude

namespace Binary64

/-- The number nearest to a signed ratio, infinite beyond the largest magnitude. -/
def ofRatio (negative : Bool) (num den : Nat) : Binary64 :=
  match Magnitude.ofRatio? num den with
  | some magnitude => .finite negative magnitude
  | none => .infinite negative

/-- The number nearest to an integer. -/
def ofInt (n : Int) : Binary64 := ofRatio (n < 0) n.natAbs 1

def isFinite : Binary64 → Bool
  | .finite _ _ => true
  | _ => false

def isZero : Binary64 → Bool
  | .finite _ magnitude => magnitude.significand == 0
  | _ => false

/-- The 64-bit integer nearest to an integer. -/
def clampInt64 (n : Int) : Int64 :=
  if n < Int64.minValue.toInt then Int64.minValue
  else if Int64.maxValue.toInt < n then Int64.maxValue
  else Int64.ofInt n

/-- The integer next to a number toward zero, held within the signed 64-bit range; zero if undefined. -/
def toInt64 : Binary64 → Int64
  | .nan => 0
  | .infinite true => Int64.minValue
  | .infinite false => Int64.maxValue
  | .finite negative magnitude =>
    let whole : Nat := magnitude.units / Magnitude.unitsPerOne
    clampInt64 (if negative then -(whole : Int) else whole)

end Binary64

end WarehouseSql
