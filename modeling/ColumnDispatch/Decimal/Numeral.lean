import ColumnDispatch.Ieee.Number

/-! Reading decimal text. An integer is an optional sign and ASCII digits. A floating-point numeral
is an optional sign and either a word (`nan`, `inf`, `infinity`, in any case) or digits with an
optional point and an optional exponent; at least one digit stands before the exponent and, if there
is one, in it. The value is rounded once, from the exact decimal quotient. -/

namespace ColumnDispatch.Decimal

open Ieee

/-- The number that the digits spell; the list is taken to hold digits only. -/
def ofDigits (digits : List Char) : Nat :=
  digits.foldl (fun n c => 10 * n + (c.toNat - '0'.toNat)) 0

/-- A leading sign, and the rest. -/
def takeSign : List Char → Bool × List Char
  | '-' :: rest => (true, rest)
  | '+' :: rest => (false, rest)
  | text => (false, text)

def signed (negative : Bool) (n : Nat) : Int := if negative then -n else n

/-- The integer that a text spells in full. -/
def integer? (text : String) : Option Int :=
  let (negative, digits) := takeSign text.toList
  if !digits.isEmpty && digits.all Char.isDigit then some (signed negative (ofDigits digits))
  else none

/-- The exponent part of a numeral: nothing, or a letter, an optional sign and digits. -/
def exponent? : List Char → Option Int
  | [] => some 0
  | c :: rest =>
    let (negative, digits) := takeSign rest
    if (c == 'e' || c == 'E') && !digits.isEmpty && digits.all Char.isDigit then
      some (signed negative (ofDigits digits))
    else none

/-- A numeral without its sign: its digits as one number and the exponent of the last of them. -/
def magnitude? (text : List Char) : Option (Nat × Int) :=
  let whole := text.takeWhile Char.isDigit
  let (fraction, rest) :=
    match text.dropWhile Char.isDigit with
    | '.' :: rest => (rest.takeWhile Char.isDigit, rest.dropWhile Char.isDigit)
    | rest => ([], rest)
  if whole.isEmpty && fraction.isEmpty then none
  else (exponent? rest).map fun e => (ofDigits (whole ++ fraction), e - fraction.length)

/-- The number closest to `digits * 10 ^ exponent`. A numeral that lies beyond the format's range on
either side is settled without computing the power. -/
def scaled (f : Format) (negative : Bool) (digits : Nat) (exponent : Int) : Number f :=
  let reach : Int := 2 ^ f.exponentBits
  let point : Int := (toString digits).length + exponent
  if digits = 0 ∨ point < -reach then .zero negative
  else if reach < point then .infinite negative
  else .nearest negative (digits * 10 ^ exponent.toNat) (10 ^ (-exponent).toNat)

def ofWord? (f : Format) (negative : Bool) (word : String) : Option (Number f) :=
  if word == "nan" then some (.ofMagnitude negative (f.infinity + f.quietBit))
  else if word == "inf" || word == "infinity" then some (.infinite negative)
  else none

/-- The floating-point number that a text spells in full. -/
def number? (f : Format) (text : String) : Option (Number f) :=
  let (negative, rest) := takeSign text.toList
  match magnitude? rest with
  | some (digits, exponent) => some (scaled f negative digits exponent)
  | none => ofWord? f negative (String.ofList (rest.map Char.toLower))

end ColumnDispatch.Decimal
