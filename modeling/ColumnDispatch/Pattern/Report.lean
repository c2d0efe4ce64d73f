import ColumnDispatch.Pattern.Fault
import ColumnDispatch.Text.Affix

/-! The report of a fault: the pattern with carets under the part that the fault is about, and the
reason. A pattern of several lines is shown with line numbers; a part that runs over a line end has
no carets and is told by its ends. -/

namespace ColumnDispatch.Pattern

/-- A place in a text: its line and its column, both from one on. -/
structure Place where
  line : Nat
  column : Nat
  deriving DecidableEq, Repr

namespace Place

/-- The place behind the first `offset` characters. -/
def ofOffset (text : List Char) (offset : Nat) : Place :=
  let before := text.take offset
  let lastLine := before.reverse.takeWhile (· != '\n')
  ⟨before.count '\n' + 1, lastLine.length + 1⟩

end Place

/-- The line without its end, which a carriage return may be part of. -/
def chompReturn (line : List Char) : List Char := (Text.dropLast? ['\r'] line).getD line

/-- The lines of a text; a line end at the end of the text ends the last line. -/
def lines (text : List Char) : List (List Char) :=
  let pieces := text.splitOn '\n'
  let last := pieces.getLast?.getD []
  pieces.dropLast.map chompReturn ++ (if last.isEmpty then [] else [last])

/-- A part of a text by the places of its ends. -/
structure Extent where
  first : Place
  behind : Place
  deriving DecidableEq, Repr

namespace Extent

def isOneLine (e : Extent) : Bool := e.first.line = e.behind.line

/-- At least one caret, from the first column on. -/
def carets (e : Extent) : Nat := max 1 (e.behind.column - e.first.column)

def note (e : Extent) : String :=
  s!"on line {e.first.line} (column {e.first.column}) through " ++
    s!"line {e.behind.line} (column {e.behind.column - 1})"

end Extent

/-- The carets of parts of one line, from left to right, behind `column` columns. -/
def caretLine (column : Nat) : List Extent → String
  | [] => ""
  | e :: rest =>
    let gap := e.first.column - 1 - column
    "".pushn ' ' gap ++ "".pushn '^' e.carets ++ caretLine (column + gap + e.carets) rest

def divider : String := "".pushn '~' 79

namespace Fault

/-- The parts that the fault is about, from left to right. -/
def extents (f : Fault) (pattern : List Char) : List Extent :=
  let spans := (f.span :: f.earlier?.toList).mergeSort fun a b => a.start ≤ b.start
  spans.map fun s => ⟨.ofOffset pattern s.start, .ofOffset pattern s.stop⟩

/-- The lines of the pattern, each with a label in front and carets under it. -/
def notated (f : Fault) (pattern : List Char) (label : Nat → String) : String :=
  let extents := f.extents pattern
  String.join ((lines pattern).zipIdx.map fun (line, i) =>
    let mark := label (i + 1)
    let here := extents.filter fun e => e.isOneLine && e.first.line = i + 1
    let carets := if here.isEmpty then "" else "".pushn ' ' mark.length ++ caretLine 0 here ++ "\n"
    mark ++ String.ofList line ++ "\n" ++ carets)

/-- A label with the line's number, as wide as the number of the last line. -/
def numberLabel (count line : Nat) : String :=
  let number := toString line
  "".pushn ' ' ((toString count).length - number.length) ++ number ++ ": "

def report (f : Fault) (pattern : String) : String :=
  let text := pattern.toList
  let body :=
    if text.contains '\n' then
      let count := (lines text).length + if text.getLast? = some '\n' then 1 else 0
      let wide := (f.extents text).filter (!·.isOneLine)
      divider ++ "\n" ++ f.notated text (numberLabel count) ++ divider ++ "\n" ++
        String.join (wide.map (·.note ++ "\n"))
    else f.notated text fun _ => "    "
  "regex parse error:\n" ++ body ++ "error: " ++ f.reason.message

end Fault

end ColumnDispatch.Pattern
