import ColumnDispatch.Ieee.Number

/-! The arithmetic of floating-point numbers: the exact result on the meanings, rounded once. A NaN
operand is passed on, the left one first; an operation with no result gives `Number.invalid`. The
remainder has the dividend's sign and is always exact. -/

namespace ColumnDispatch.Ieee.Number

variable {f : Format}

/-- A signed significand brought to a lower exponent. -/
def scaleTo (low : Int) (negative : Bool) (significand : Nat) (exponent : Int) : Int :=
  let scaled : Nat := significand <<< (exponent - low).toNat
  if negative then -scaled else scaled

def add (x y : Number f) : Number f :=
  match x.read, y.read with
  | .nan, _ => x.quiet
  | _, .nan => y.quiet
  | .infinite s, .infinite t => if s = t then x else invalid
  | .infinite _, .finite .. => x
  | .finite .., .infinite _ => y
  | .finite s m e, .finite t n d =>
    let low := min e d
    let sum := scaleTo low s m e + scaleTo low t n d
    if sum = 0 then zero (s && t) else ofScaled (sum < 0) sum.natAbs low

def sub (x y : Number f) : Number f :=
  if x.isNaN then x.quiet else if y.isNaN then y.quiet else x.add y.neg

def mul (x y : Number f) : Number f :=
  match x.read, y.read with
  | .nan, _ => x.quiet
  | _, .nan => y.quiet
  | .infinite s, .infinite t => infinite (s != t)
  | .infinite s, .finite t n _ => if n = 0 then invalid else infinite (s != t)
  | .finite s m _, .infinite t => if m = 0 then invalid else infinite (s != t)
  | .finite s m e, .finite t n d => ofScaled (s != t) (m * n) (e + d)

def div (x y : Number f) : Number f :=
  match x.read, y.read with
  | .nan, _ => x.quiet
  | _, .nan => y.quiet
  | .infinite _, .infinite _ => invalid
  | .infinite s, .finite t .. => infinite (s != t)
  | .finite s .., .infinite t => zero (s != t)
  | .finite s m e, .finite t n d =>
    if n = 0 then if m = 0 then invalid else infinite (s != t)
    else nearest (s != t) (m <<< (e - d).toNat) (n <<< (d - e).toNat)

/-- The remainder of truncating division. -/
def rem (x y : Number f) : Number f :=
  match x.read, y.read with
  | .nan, _ => x.quiet
  | _, .nan => y.quiet
  | .infinite _, _ => invalid
  | .finite .., .infinite _ => x
  | .finite s m e, .finite _ n d =>
    if n = 0 then invalid
    else
      let low := min e d
      ofScaled s ((m <<< (e - low).toNat) % (n <<< (d - low).toNat)) low

end ColumnDispatch.Ieee.Number
