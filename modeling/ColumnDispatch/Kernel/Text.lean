import ColumnDispatch.Kernel.Comparison
import ColumnDispatch.Kernel.Logic
import ColumnDispatch.Pattern
import ColumnDispatch.Text.Wildcard

/-! Kernels on texts: wildcard patterns, the search for regular expressions, and concatenation. Each
row has its own pattern. A negated operator is the negation of the plain one, row by row. Wildcard
patterns have no size limit here. Where those of general shape are run as regular expressions they
fall under the limit that `Pattern.Size` estimates for searches, which about ten thousand `_` reach;
that refusal is not modelled. -/

namespace ColumnDispatch.Kernel

/-! ### Wildcards -/

def likeColumns (negated : Bool) (left right : Column) : Except Failure (List (Option Bool)) :=
  ofSameLength left.cells right.cells (comparedLengths left.length right.length)
    (match left, right with
    | ⟨.utf8, texts⟩, ⟨.utf8, patterns⟩ =>
      let row (text pattern : String) := Text.Wildcard.accepts pattern text != negated
      eachPair (onBothPresent fun text pattern => .ok (row text pattern)) texts patterns
    | _, _ =>
      let symbol := if negated then "NLIKE" else "LIKE"
      .error (invalidOperation "string " symbol left.storage right.storage))

def like (negated : Bool) : BinaryKernel := fun left right => do
  return .ofCells .bool (← likeColumns negated left.column right.column)

/-! ### Regular expressions -/

def searchLengths : Failure :=
  .compute (.about .compute "Cannot perform comparison operation on arrays of different length")

/-- Whether the pattern is found in the text; the empty pattern is found in every text. -/
def isFound (text pattern : String) : Except Failure Bool :=
  if pattern.isEmpty then .ok true
  else
    match Pattern.compile pattern with
    | .ok expr => .ok (Pattern.isFoundIn expr text)
    | .error fault =>
      let reason := fault.message pattern
      .error (.compute (.about .compute s!"Regular expression did not compile: {reason}"))

def searchCells (left right : Batch) : Except Failure (List (Option Bool)) := do
  let texts ← cellsOf .utf8 left
  let patterns ← cellsOf .utf8 right
  ofSameLength texts patterns searchLengths (eachPair (onBothPresent isFound) texts patterns)

def search : BinaryKernel := fun left right => do
  return .ofCells .bool (← searchCells left right)

def notSearch : BinaryKernel := fun left right => do
  return .ofCells .bool ((← searchCells left right).map negation)

/-! ### Concatenation -/

def concatenatedLengths (left right : Nat) : Failure :=
  .compute (.about .compute s!"Arrays must have the same length: {left} != {right}")

/-- Two columns of texts as one; a null on either side gives null. -/
def appendTexts (left right : List (Option String)) : Except Failure (List (Option String)) :=
  ofSameLength left right (concatenatedLengths left.length right.length)
    (eachPair (onBothPresent fun a b => .ok (a ++ b)) left right)

/-- The texts with those of further batches behind them, one batch after the other. -/
def appendAll (texts : List (Option String)) : List Batch → Except Failure (List (Option String))
  | [] => .ok texts
  | next :: rest => do
    let more ← cellsOf .utf8 next
    appendAll (← appendTexts texts more) rest

def concat : VariadicKernel
  | [] => .error (.kernel "concat requires at least one argument")
  | first :: rest => do
    let texts ← cellsOf .utf8 first
    return .ofCells .string (← appendAll texts rest)

end ColumnDispatch.Kernel
