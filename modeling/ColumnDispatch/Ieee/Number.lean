import ColumnDispatch.Power

/-! Binary floating-point numbers as bit patterns. A format fixes the widths of the exponent and the
fraction; a number is a pattern of that width, and its meaning is a NaN, an infinity or a
significand times a power of two. `Number.nearest` is the one place where rounding happens: it gives
the pattern closest to a quotient of natural numbers, a tie going to the even significand. -/

namespace ColumnDispatch.Ieee

structure Format where
  exponentBits : Nat
  fractionBits : Nat
  deriving DecidableEq

namespace Format

def single : Format := ⟨8, 23⟩

def double : Format := ⟨11, 52⟩

/-- The number of bits beside the sign. -/
def magnitudeBits (f : Format) : Nat := f.exponentBits + f.fractionBits

abbrev width (f : Format) : Nat := f.magnitudeBits + 1

/-- The exponent of the last place of the numbers closest to zero. -/
def minExponent (f : Format) : Int := 2 - 2 ^ (f.exponentBits - 1) - f.fractionBits

/-- The magnitude of an infinity; every larger one is a NaN. -/
def infinity (f : Format) : Nat := (2 ^ f.exponentBits - 1) <<< f.fractionBits

/-- The fraction bit that tells a quiet NaN from a signalling one. -/
def quietBit (f : Format) : Nat := 1 <<< (f.fractionBits - 1)

end Format

structure Number (f : Format) where
  bits : BitVec f.width
  deriving DecidableEq

/-- What a pattern stands for; a finite number is its significand times two to the exponent. -/
inductive Reading where
  | nan
  | infinite (negative : Bool)
  | finite (negative : Bool) (significand : Nat) (exponent : Int)
  deriving DecidableEq

/-- `num / den` rounded to an integer, a tie going to the even one. -/
def roundDiv (num den : Nat) : Nat :=
  let quotient := num / den
  let rest := 2 * (num % den)
  if den < rest ∨ (rest = den ∧ quotient % 2 = 1) then quotient + 1 else quotient

namespace Number

variable {f : Format}

def isNegative (x : Number f) : Bool := x.bits.msb

/-- The pattern without its sign. -/
def magnitude (x : Number f) : Nat := x.bits.toNat % 2 ^ f.magnitudeBits

def ofMagnitude (negative : Bool) (magnitude : Nat) : Number f :=
  ⟨BitVec.ofNat f.width ((if negative then 2 ^ f.magnitudeBits else 0) + magnitude)⟩

def isNaN (x : Number f) : Bool := f.infinity < x.magnitude

/-- Whether the number is one of the two zeros. -/
def isZero (x : Number f) : Bool := x.magnitude = 0

def read (x : Number f) : Reading :=
  if f.infinity < x.magnitude then .nan
  else if x.magnitude = f.infinity then .infinite x.isNegative
  else
    let exponent := x.magnitude >>> f.fractionBits
    let fraction := x.magnitude % 2 ^ f.fractionBits
    if exponent = 0 then .finite x.isNegative fraction f.minExponent
    else .finite x.isNegative (2 ^ f.fractionBits + fraction) (f.minExponent + exponent - 1)

def zero (negative : Bool) : Number f := ofMagnitude negative 0

def infinite (negative : Bool) : Number f := ofMagnitude negative f.infinity

/-- The NaN of an operation that has no result; its sign bit is set. -/
def invalid : Number f := ofMagnitude true (f.infinity + f.quietBit)

/-- A NaN with its quiet bit set; the sign and the rest of the payload stay. -/
def quiet (x : Number f) : Number f := ⟨x.bits ||| BitVec.ofNat f.width f.quietBit⟩

def neg (x : Number f) : Number f := ofMagnitude (!x.isNegative) x.magnitude

def abs (x : Number f) : Number f := ofMagnitude false x.magnitude

/-- The exponent of the leading bit of a positive quotient. -/
def leadingExponent (num den : Nat) : Int :=
  let guess : Int := num.log2 - den.log2
  if den <<< guess.toNat ≤ num <<< (-guess).toNat then guess else guess - 1

/-- The number closest to the quotient, a tie going to the even significand. The significand carries
into the exponent by itself, and a magnitude past the largest finite one is an infinity. -/
def nearest (negative : Bool) (num den : Nat) : Number f :=
  if num = 0 then zero negative
  else
    let exponent := max f.minExponent (leadingExponent num den - f.fractionBits)
    let significand := roundDiv (num <<< (-exponent).toNat) (den <<< exponent.toNat)
    let magnitude := ((exponent - f.minExponent).toNat <<< f.fractionBits) + significand
    ofMagnitude negative (min magnitude f.infinity)

/-- The number closest to a significand times a power of two. -/
def ofScaled (negative : Bool) (significand : Nat) (exponent : Int) : Number f :=
  nearest negative (significand <<< exponent.toNat) (1 <<< (-exponent).toNat)

def ofInt (i : Int) : Number f := nearest (i < 0) i.natAbs 1

/-- The integer part, for a number that has one. -/
def truncate? (x : Number f) : Option Int :=
  match x.read with
  | .finite negative significand exponent =>
    let whole : Nat := (significand <<< exponent.toNat) >>> (-exponent).toNat
    some (if negative then -whole else whole)
  | _ => none

/-- The closest number of another format. A NaN keeps its sign and the leading bits of its payload,
and becomes quiet. -/
def convert (g : Format) (x : Number f) : Number g :=
  match x.read with
  | .nan =>
    let payload := (x.magnitude % 2 ^ f.fractionBits) <<< g.fractionBits >>> f.fractionBits
    (ofMagnitude x.isNegative (g.infinity + payload)).quiet
  | .infinite negative => infinite negative
  | .finite negative significand exponent => ofScaled negative significand exponent

end Number

abbrev Binary32 := Number .single

abbrev Binary64 := Number .double

end ColumnDispatch.Ieee
