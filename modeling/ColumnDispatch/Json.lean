/-! JSON values, as far as reading an identifier needs them: a number written as an integer is told
from every other number. -/

namespace ColumnDispatch

inductive Json where
  | null
  | bool (value : Bool)
  | integer (value : Int)
  /-- A number with a fraction or an exponent: the mantissa over a power of ten. -/
  | decimal (mantissa : Int) (places : Nat)
  | string (value : String)
  | array (elements : List Json)
  | object (members : List (String × Json))

end ColumnDispatch
