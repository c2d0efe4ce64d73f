import ColumnDispatch.Ieee.Number

/-! The shortest decimal numeral of a floating-point number. Each finite number owns the interval of
quotients that round to it, its ends included when the significand is even. Of the decimal grids,
from one digit on, the first with a point in that interval fixes the length; a grid with a point in
the interval has one of the two grid points next to the number itself in it, so those two are
tried, and of two hits the nearer one is taken, a tie going to the even one. -/

namespace ColumnDispatch.Decimal

open Ieee

/-- The number `digits * 10 ^ exponent`. -/
structure Digits where
  digits : Nat
  exponent : Int
  deriving DecidableEq, Repr

/-- Moves trailing zeros of the digits into the exponent. -/
def Digits.strip (d : Digits) : Digits :=
  let trailing := ((toString d.digits).toList.reverse.takeWhile (· == '0')).length
  if d.digits = 0 then ⟨0, 0⟩ else ⟨d.digits / 10 ^ trailing, d.exponent + trailing⟩

/-- A number between the ends of its rounding interval, all over one denominator. -/
structure Interval where
  low : Nat
  value : Nat
  high : Nat
  den : Nat
  closed : Bool

namespace Interval

/-- The interval of quotients that round to `significand * 2 ^ exponent`. Below a power of two the
numbers lie twice as close. -/
def ofFinite (f : Format) (significand : Nat) (exponent : Int) : Interval :=
  let below := if significand = 2 ^ f.fractionBits ∧ f.minExponent < exponent then 1 else 2
  let scale (n : Nat) : Nat := n <<< (exponent - 2).toNat
  { low := scale (4 * significand - below)
    value := scale (4 * significand)
    high := scale (4 * significand + 2)
    den := 1 <<< (2 - exponent).toNat
    closed := significand % 2 = 0 }

/-- The interval in units of `10 ^ exponent`. -/
def inUnits (i : Interval) (exponent : Int) : Interval :=
  let up := 10 ^ (-exponent).toNat
  { i with
    low := i.low * up
    value := i.value * up
    high := i.high * up
    den := i.den * 10 ^ exponent.toNat }

def contains (i : Interval) (n : Nat) : Bool :=
  let scaled := n * i.den
  if i.closed then i.low ≤ scaled && scaled ≤ i.high else i.low < scaled && scaled < i.high

/-- The integer of the interval that is nearest to its value. -/
def nearestInteger? (i : Interval) : Option Nat :=
  let floor := i.value / i.den
  let rest := 2 * (i.value % i.den)
  let floorFirst := rest < i.den || (rest = i.den && floor % 2 = 0)
  let candidates := if floorFirst then [floor, floor + 1] else [floor + 1, floor]
  candidates.find? i.contains

/-- The exponent of the least power of ten above the value. -/
def point (i : Interval) (f : Format) : Int :=
  let shift := (-f.minExponent).toNat
  (toString (i.value * 10 ^ shift / i.den)).length - shift

end Interval

/-- As many digits as always tell the numbers of a format apart. -/
def maxDigits (f : Format) : Nat := 2 + (f.fractionBits + 1) * 30103 / 100000

/-- The shortest numeral that reads back as the positive number `significand * 2 ^ exponent`. -/
def shortest (f : Format) (significand : Nat) (exponent : Int) : Digits :=
  let interval := Interval.ofFinite f significand exponent
  let point := interval.point f
  let onGrid (length : Nat) : Option Digits :=
    let unit := point - (length + 1)
    (interval.inUnits unit).nearestInteger?.map (⟨·, unit⟩)
  (((List.range (maxDigits f)).findSome? onGrid).getD ⟨0, 0⟩).strip

end ColumnDispatch.Decimal
