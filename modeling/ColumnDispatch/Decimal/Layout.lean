import ColumnDispatch.Decimal.Shortest

/-! The written form of a floating-point number: its shortest digits, with the point set in place
when the number is of moderate size and with an exponent otherwise. Positional numerals always show
a fraction, `.0` if need be; exponents have no plus sign. -/

namespace ColumnDispatch.Decimal

open Ieee

/-- Which numbers are written without an exponent: those that are at least `10 ^ lowest` and less
than `10 ^ highest`. -/
structure Layout where
  lowest : Int
  highest : Int

def sign (negative : Bool) : String := if negative then "-" else ""

/-- The digits `d` with the point after the first `point` of them. -/
def Layout.place (layout : Layout) (digits : List Char) (point : Int) : List Char :=
  let zeros (n : Int) : List Char := List.replicate n.toNat '0'
  if layout.lowest < point ∧ point ≤ layout.highest then
    if point ≤ 0 then '0' :: '.' :: zeros (-point) ++ digits
    else if digits.length ≤ point then digits ++ zeros (point - digits.length) ++ ['.', '0']
    else digits.take point.toNat ++ '.' :: digits.drop point.toNat
  else
    let mantissa := match digits with
      | [] | [_] => digits
      | first :: rest => first :: '.' :: rest
    mantissa ++ 'e' :: (toString (point - 1)).toList

def Layout.write (layout : Layout) {f : Format} (x : Number f) : String :=
  match x.read with
  | .nan => "NaN"
  | .infinite negative => sign negative ++ "inf"
  | .finite negative significand exponent =>
    if significand = 0 then sign negative ++ "0.0"
    else
      let shortest := shortest f significand exponent
      let digits := (toString shortest.digits).toList
      sign negative ++ String.ofList (layout.place digits (digits.length + shortest.exponent))

end ColumnDispatch.Decimal
