import ColumnDispatch.Pattern.Fault

/-! What a pattern says, part by part, each with the place where it stands. -/

namespace ColumnDispatch.Pattern

/-! ### Flags -/

inductive Flag where
  | ignoreCase | multiLine | dotNewline | swapGreed | unicode | crlf | ignoreBlanks
  deriving DecidableEq, Repr

def Flag.ofChar? : Char → Option Flag
  | 'i' => some ignoreCase
  | 'm' => some multiLine
  | 's' => some dotNewline
  | 'U' => some swapGreed
  | 'u' => some unicode
  | 'R' => some crlf
  | 'x' => some ignoreBlanks
  | _ => none

/-- A flag that is set or cleared. -/
structure FlagChange where
  flag : Flag
  on : Bool
  deriving DecidableEq, Repr

/-! ### Sets of characters -/

structure Literal where
  span : Span
  char : Char
  /-- Whether the character is written as a byte, by two digits in base sixteen. -/
  isByte : Bool
  deriving DecidableEq, Repr

/-- The sets that a letter behind a backslash names. -/
inductive Shorthand where
  | digit | space | word
  deriving DecidableEq, Repr

/-- The named sets of ASCII characters. -/
inductive AsciiClass where
  | alnum | alpha | ascii | blank | cntrl | digit | graph | lower | print | punct | space | upper
  | word | xdigit
  deriving DecidableEq, Repr

def AsciiClass.ofName? (name : String) : Option AsciiClass :=
  [("alnum", alnum), ("alpha", alpha), ("ascii", ascii), ("blank", blank), ("cntrl", cntrl),
    ("digit", digit), ("graph", graph), ("lower", lower), ("print", print), ("punct", punct),
    ("space", space), ("upper", upper), ("word", word), ("xdigit", xdigit)].lookup name

/-- How a Unicode property is named. -/
inductive PropertyQuery where
  | named (name : String)
  | valued (name value : String)
  deriving DecidableEq, Repr

inductive ClassItem where
  | literal (literal : Literal)
  | range (span : Span) (first last : Literal)
  | ascii (span : Span) (negated : Bool) (kind : AsciiClass)
  | property (span : Span) (negated : Bool) (query : PropertyQuery)
  | shorthand (span : Span) (negated : Bool) (kind : Shorthand)
  deriving DecidableEq, Repr

namespace ClassItem

def span : ClassItem → Span
  | literal l => l.span
  | range span _ _ | ascii span _ _ | property span _ _ | shorthand span _ _ => span

end ClassItem

inductive SetOperation where
  | intersection | difference | symmetricDifference
  deriving DecidableEq, Repr

inductive ClassSet where
  | item (item : ClassItem)
  | union (span : Span) (members : List ClassSet)
  | bracketed (span : Span) (negated : Bool) (inner : ClassSet)
  | operation (span : Span) (op : SetOperation) (left right : ClassSet)

namespace ClassSet

def span : ClassSet → Span
  | item i => i.span
  | union span _ | bracketed span _ _ | operation span _ _ _ => span

end ClassSet

/-! ### Patterns -/

inductive Assertion where
  | lineStart | lineEnd | textStart | textEnd
  | wordBoundary | notWordBoundary | wordStart | wordEnd | wordStartHalf | wordEndHalf
  deriving DecidableEq, Repr

inductive Tree where
  | empty (span : Span)
  /-- Flags for the rest of the group. -/
  | flags (span : Span) (changes : List FlagChange)
  | dot (span : Span)
  | item (item : ClassItem)
  | bracketed (set : ClassSet)
  | assertion (span : Span) (kind : Assertion)
  | repetition (span : Span) (min : Nat) (max? : Option Nat) (body : Tree)
  /-- Flags for the group alone; whether its part of a text is kept makes no difference here. -/
  | group (span : Span) (captures : Bool) (changes : List FlagChange) (body : Tree)
  | choice (span : Span) (branches : List Tree)
  | sequence (span : Span) (parts : List Tree)

namespace Tree

def span : Tree → Span
  | item i => i.span
  | bracketed s => s.span
  | empty span | flags span _ | dot span | assertion span _ | repetition span _ _ _
  | group span _ _ _ | choice span _ | sequence span _ => span

/-- Whether a repetition may follow. -/
def isRepeatable : Tree → Bool
  | empty _ | flags _ _ => false
  | _ => true

end Tree

end ColumnDispatch.Pattern
