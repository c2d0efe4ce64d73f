import ColumnDispatch.Pattern.CharSet
import ColumnDispatch.Power

/-! Search. An expression takes positions of a text to positions: a character moves a position on,
an assertion keeps it or drops it, and a repetition is taken as often as it can reach new positions.
All starts are followed at once, as the bits of one number. -/

namespace ColumnDispatch.Pattern

inductive Expr (Leaf : Type) where
  | empty
  | leaf (leaf : Leaf)
  | sequence (first second : Expr Leaf)
  | choice (left right : Expr Leaf)
  | repetition (min : Nat) (max? : Option Nat) (body : Expr Leaf)

namespace Expr

variable {α β : Type}

def map (f : α → β) : Expr α → Expr β
  | empty => empty
  | leaf a => leaf (f a)
  | sequence a b => sequence (a.map f) (b.map f)
  | choice a b => choice (a.map f) (b.map f)
  | repetition min max? a => repetition min max? (a.map f)

/-- The sequence of several expressions. -/
def concat : List (Expr α) → Expr α
  | [] => empty
  | [part] => part
  | part :: rest => sequence part (concat rest)

/-- The choice between several expressions. -/
def oneOf : List (Expr α) → Expr α
  | [] => empty
  | [branch] => branch
  | branch :: rest => choice branch (oneOf rest)

end Expr

/-! ### Positions -/

/-- A set of positions in a text, one bit for each. -/
abbrev Positions := Nat

namespace Positions

/-- The positions in front of, between and behind `n` characters. -/
def all (n : Nat) : Positions := 2 ^ (n + 1) - 1

/-- The positions whose answer is true. -/
def ofAnswers (answers : List Bool) : Positions :=
  answers.foldr (fun answer bits => 2 * bits + answer.toNat) 0

end Positions

/-- What a leaf does on a text. -/
inductive Step where
  /-- Moves each of the positions on by a character. -/
  | consume (at? : Positions)
  /-- Keeps each of the positions. -/
  | stay (at? : Positions)

def Step.run : Step → Positions → Positions
  | consume at?, starts => (starts &&& at?) <<< 1
  | stay at?, starts => starts &&& at?

/-! ### Ends -/

/-- What is left after exactly `n` rounds. -/
def rounds (round : Positions → Positions) : Nat → Positions → Positions
  | 0, starts => starts
  | n + 1, starts => if starts = 0 then 0 else rounds round n (round starts)

/-- All that is reached in at most `n` rounds. -/
def roundsUpTo (round : Positions → Positions) : Nat → Positions → Positions
  | 0, reached => reached
  | n + 1, reached =>
    let more := reached ||| round reached
    if more = reached then reached else roundsUpTo round n more

/-- The ends of all parts of a text that match and begin at one of the starts. In a text with `size`
positions, no more than `size` rounds of a repetition reach or lose a position. -/
def Expr.ends (size : Nat) : Expr Step → Positions → Positions
  | empty, starts => starts
  | leaf step, starts => step.run starts
  | sequence a b, starts => b.ends size (a.ends size starts)
  | choice a b, starts => a.ends size starts ||| b.ends size starts
  | repetition min max? a, starts =>
    let least := rounds (fun s => a.ends size s) (Nat.min min size) starts
    let extra := match max? with
      | some max => Nat.min (max - min) size
      | none => size
    roundsUpTo (fun s => a.ends size s) extra least

/-- Whether a part of a text of `n` characters matches. -/
def Expr.occurs (n : Nat) (e : Expr Step) : Bool := e.ends (n + 1) (Positions.all n) != 0

end ColumnDispatch.Pattern
