import ColumnDispatch.Pattern.Meaning
import ColumnDispatch.Pattern.Reader
import ColumnDispatch.Pattern.Report
import ColumnDispatch.Pattern.Size

/-! Patterns in the form of regular expressions, and the search for them in texts. A pattern is
read, given its meaning, and followed over a text from every position at once. -/

namespace ColumnDispatch.Pattern

/-! ### Compilation -/

inductive CompileFault where
  | malformed (fault : Fault)
  | tooBig
  deriving DecidableEq, Repr

/-- What is wrong with the pattern. -/
def CompileFault.message (pattern : String) : CompileFault → String
  | malformed fault =>
    "Syntax(\n" ++ divider ++ "\n" ++ fault.report pattern ++ "\n" ++ divider ++ "\n)"
  | tooBig => s!"CompiledTooBig({sizeLimit})"

def compile (pattern : String) : Except CompileFault (Expr Leaf) := do
  let tree ← (Tree.ofPattern pattern).mapError .malformed
  let (expr, _) ← (tree.meaning {}).mapError .malformed
  if sizeLimit < tree.size then throw .tooBig
  return expr

/-! ### Search -/

/-- What stands at each position of a text. -/
def surroundings (text : List Char) : List Surroundings :=
  let chars := text.map some
  (none :: chars).zipWith Surroundings.mk (chars ++ [none])

/-- What a leaf does on the text. -/
def Leaf.step (text : List Char) : Leaf → Step
  | char set => .consume (Positions.ofAnswers (text.map set))
  | condition c => .stay (Positions.ofAnswers ((surroundings text).map (c.holds ·)))

/-- Whether the expression matches some part of the text. -/
def isFoundIn (expr : Expr Leaf) (text : String) : Bool :=
  let chars := text.toList
  (expr.map (Leaf.step chars)).occurs chars.length

end ColumnDispatch.Pattern
