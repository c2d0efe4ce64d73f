import ColumnDispatch.Pattern.Tree
import ColumnDispatch.Text.Blank

/-! Where the reading of a pattern stands, and the moves from there. While blanks are ignored, the
moves that say so also pass over blank characters and over comments, which run from `#` to the end
of the line. -/

namespace ColumnDispatch.Pattern

structure Cursor where
  /-- What is still to be read. -/
  rest : List Char
  /-- The number of characters that have been read. -/
  offset : Nat
  ignoresBlanks : Bool
  /-- The names of groups, with their places. -/
  names : List (String × Span)

abbrev Reader := StateT Cursor (Except Fault)

namespace Cursor

def ofPattern (pattern : String) : Cursor := ⟨pattern.toList, 0, false, []⟩

/-- The cursor behind `n` more characters. -/
def drop (c : Cursor) (n : Nat) : Cursor :=
  { c with rest := c.rest.drop n, offset := c.offset + min n c.rest.length }

/-- How many of the characters are blanks and comments. -/
def blankCount (inComment : Bool) : List Char → Nat
  | [] => 0
  | c :: rest =>
    if inComment then blankCount (c != '\n') rest + 1
    else if Text.isBlank c then blankCount false rest + 1
    else if c == '#' then blankCount true rest + 1
    else 0

def skipBlanks (c : Cursor) : Cursor :=
  if c.ignoresBlanks then c.drop (blankCount false c.rest) else c

/-- The character behind the next one. While blanks are ignored they are passed over here too, and
of a comment its mark alone. -/
def second? (c : Cursor) : Option Char :=
  let behind := c.rest.tail
  if c.ignoresBlanks then
    let word := behind.dropWhile Text.isBlank
    let word := if word.head? = some '#' then word.tail.dropWhile Text.isBlank else word
    word.head?.or behind.head?
  else behind.head?

end Cursor

namespace Reader

/-! ### Looking -/

def peek? : Reader (Option Char) := return (← get).rest.head?

def atEnd : Reader Bool := return (← get).rest.isEmpty

def offset : Reader Nat := return (← get).offset

/-- The empty part in front of the next character. -/
def here : Reader Span := return ⟨← offset, ← offset⟩

/-- The next character. -/
def charSpan : Reader Span := return ⟨← offset, (← offset) + 1⟩

/-- What has been read from `start` on. -/
def spanFrom (start : Nat) : Reader Span := return ⟨start, ← offset⟩

/-! ### Moving -/

def bump : Reader Unit := modify (·.drop 1)

def skipBlanks : Reader Unit := modify Cursor.skipBlanks

/-- Passes over one character and the blanks behind it. -/
def advance : Reader Unit := do
  bump
  skipBlanks

/-- Passes over the text if it comes next. -/
def bumpIf (text : String) : Reader Bool := do
  let comesNext := text.toList.isPrefixOf (← get).rest
  if comesNext then modify (·.drop text.length)
  return comesNext

/-- At most `fuel` characters that pass the test, each with the blanks behind it. -/
def collectUpTo (accepts : Char → Bool) : Nat → Reader (List Char)
  | 0 => return []
  | fuel + 1 => do
    match ← peek? with
    | some c =>
      if accepts c then
        advance
        return c :: (← collectUpTo accepts fuel)
      else return []
    | none => return []

/-- The characters up to the first that fails the test, without the blanks behind each. -/
def collect (accepts : Char → Bool) : Reader (List Char) := do
  collectUpTo accepts (← get).rest.length

/-! ### Refusing -/

variable {α : Type}

def fail (reason : Reason) (span : Span) : Reader α := throw ⟨reason, span, none⟩

/-- Refuses a pattern that ends too early, for what has been read from `start` on. -/
def requireMore (reason : Reason) (start : Nat) : Reader Unit := do
  if ← atEnd then fail reason (← spanFrom start)

end Reader

end ColumnDispatch.Pattern
