import ColumnDispatch.Pattern.Unicode.CaseShifts

/-! Sets of characters and their closure under case: a set that ignores case has all characters that
fold to the same one as a member of it. -/

namespace ColumnDispatch.Pattern

/-! ### Case -/

namespace Unicode

def CaseShift.covers (s : CaseShift) (n : Int) : Bool :=
  s.first ≤ n && n ≤ s.last && (n - s.first) % s.stride = 0

/-- The code point that stands for all that differ from it in case only. -/
def folded (n : Int) : Int :=
  match caseShifts.find? (·.covers n) with
  | some s => n + s.shift
  | none => n

/-- The characters that differ from the character in case only, itself included. -/
def caseVariants (c : Char) : List Char :=
  let target := folded c.toNat
  let sources := caseShifts.filterMap fun s =>
    if s.covers (target - s.shift) then some (target - s.shift) else none
  (target :: sources).map (Char.ofNat ·.toNat)

end Unicode

/-! ### Sets -/

/-- A set of characters, as the test for its members. -/
abbrev CharSet := Char → Bool

namespace CharSet

def empty : CharSet := fun _ => false

def single (c : Char) : CharSet := (· == c)

def range (first last : Char) : CharSet := fun c => first ≤ c && c ≤ last

def union (s t : CharSet) : CharSet := fun c => s c || t c

def complement (s : CharSet) : CharSet := fun c => !s c

def intersection (s t : CharSet) : CharSet := fun c => s c && t c

def difference (s t : CharSet) : CharSet := fun c => s c && !t c

def symmetricDifference (s t : CharSet) : CharSet := fun c => s c != t c

/-- The closure under case. -/
def ignoringCase (s : CharSet) : CharSet := fun c => (Unicode.caseVariants c).any s

/-- The closure under the case of ASCII letters. -/
def ignoringAsciiCase (s : CharSet) : CharSet := fun c => s c || s c.toLower || s c.toUpper

end CharSet

end ColumnDispatch.Pattern
