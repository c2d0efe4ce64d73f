/-! Sets of code points as ascending ranges, found by halving. A table is written as lines of
text: code points in base sixteen, a range by its two ends. -/

namespace ColumnDispatch.Pattern.Unicode

/-- Disjoint ranges in ascending order, each with its ends. -/
structure Ranges where
  bounds : Array (Nat × Nat)

namespace Ranges

/-! ### Reading a table -/

def hexDigit (c : Char) : Nat := if c.isDigit then c.toNat - '0'.toNat else c.toNat - 'A'.toNat + 10

def readHex (digits : List Char) : Nat := digits.foldl (fun n c => 16 * n + hexDigit c) 0

/-- A range from its text: one code point, or two ends. -/
def readRange (text : String) : Nat × Nat :=
  let first := text.toList.takeWhile (· != '-')
  match text.toList.dropWhile (· != '-') with
  | [] => (readHex first, readHex first)
  | _ :: last => (readHex first, readHex last)

/-- The ranges of a table, from its lines. -/
def read (lines : List String) : Ranges :=
  ⟨((lines.flatMap (·.splitOn " ")).map readRange).toArray⟩

/-! ### Membership -/

/-- Whether one of the ranges from place `low` up to place `high` holds the code point. -/
def search (bounds : Array (Nat × Nat)) (n low high : Nat) : Bool :=
  if low < high then
    let middle := (low + high) / 2
    match bounds[middle]? with
    | some (first, last) =>
      if n < first then search bounds n low middle
      else if last < n then search bounds n (middle + 1) high
      else true
    | none => false
  else false
termination_by high - low
decreasing_by all_goals omega

def contains (r : Ranges) (n : Nat) : Bool := search r.bounds n 0 r.bounds.size

end Ranges

/-- A set of code points with its names, in lower case and without spaces and dashes. -/
structure Property where
  names : List String
  ranges : Ranges

namespace Property

def find? (table : List Property) (name : String) : Option Property :=
  table.find? (·.names.contains name)

/-- Whether the code point has the named property. -/
def holds (table : List Property) (name : String) (n : Nat) : Bool :=
  (find? table name).any (·.ranges.contains n)

end Property

end ColumnDispatch.Pattern.Unicode
