import ColumnDispatch.Pattern.Unicode.Classes
import ColumnDispatch.Power

/-! The size of a pattern. Patterns whose automaton would not fit in the size limit are refused; a
counted repetition takes the space of its body as often as it counts. A state takes `stateSize`
bytes. The space of a set of characters is estimated from the number of its ranges. -/

namespace ColumnDispatch.Pattern

def sizeLimit : Nat := 10485760

def stateSize : Nat := 32

/-- One more branch at a state. -/
def branchSize : Nat := 4

/-- The states and branches for a range of characters of several bytes. -/
def rangeSize : Nat := 2 * stateSize + branchSize

/-- All characters, or all but a few. -/
def wideSetSize : Nat := 15 * rangeSize

/-- The number of ranges that ranges in ascending order make up, where some of them touch: `count`
have been met, the last of which ends before `stop`. -/
def joinedCount (count stop : Nat) : List (Nat × Nat) → Nat
  | [] => count
  | (first, last) :: rest =>
    if 0 < count && first ≤ stop then joinedCount count (max stop (last + 1)) rest
    else joinedCount (count + 1) (last + 1) rest

/-- The space of the union of some sets. -/
def unionSize (sets : List Unicode.Ranges) : Nat :=
  let ranges := (sets.flatMap (·.bounds.toList)).mergeSort fun a b => a.1 ≤ b.1
  joinedCount 0 0 ranges * rangeSize

def digitSize : Nat := unionSize [Unicode.decimalDigits]

def spaceSize : Nat := unionSize [Unicode.whiteSpace]

def wordSize : Nat := unionSize Unicode.wordSets

def ClassItem.size : ClassItem → Nat
  | literal l => l.char.utf8Size * stateSize
  | range _ _ last => if last.char.toNat < 128 then 2 * stateSize else rangeSize
  | ascii _ _ _ => 2 * stateSize
  | property _ _ query => unionSize ((Unicode.lookup query).toOption.getD [])
  | shorthand _ _ .digit => digitSize
  | shorthand _ _ .space => spaceSize
  | shorthand _ _ .word => wordSize

def ClassSet.size : ClassSet → Nat
  | item i => i.size
  | union _ members => sizes members
  | bracketed _ negated inner => inner.size + if negated then wideSetSize else 0
  | operation _ _ left right => left.size + right.size
where
  sizes : List ClassSet → Nat
    | [] => 0
    | member :: rest => member.size + sizes rest

/-- Whether the part matches the empty text only. -/
def Tree.isEmptyOnly : Tree → Bool
  | empty _ | flags _ _ | assertion _ _ => true
  | dot _ | item _ | bracketed _ => false
  | repetition _ _ max? body => max? = some 0 || body.isEmptyOnly
  | group _ _ _ body => body.isEmptyOnly
  | choice _ branches => areEmptyOnly branches
  | sequence _ parts => areEmptyOnly parts
where
  areEmptyOnly : List Tree → Bool
    | [] => true
    | first :: rest => first.isEmptyOnly && areEmptyOnly rest

/-- The space that the part takes. -/
def Tree.size : Tree → Nat
  | empty _ | flags _ _ | assertion _ _ => stateSize
  | dot _ => wideSetSize
  | item i => i.size
  | bracketed set => set.size
  | repetition _ min max? body =>
    let most := if body.isEmptyOnly then 1 else 2 ^ 32
    let fork := stateSize + 2 * branchSize
    match max? with
    | some max => Nat.min min most * body.size + Nat.min (max - min) most * (body.size + fork)
    | none => Nat.max 1 (Nat.min min most) * body.size + fork
  | group _ captures _ body => body.size + if captures then 2 * stateSize else 0
  | choice _ branches => sizes branches + stateSize
  | sequence _ parts => sizes parts
where
  sizes : List Tree → Nat
    | [] => 0
    | first :: rest => first.size + branchSize + sizes rest

end ColumnDispatch.Pattern
