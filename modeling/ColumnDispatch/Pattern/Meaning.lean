import ColumnDispatch.Pattern.CharSet
import ColumnDispatch.Pattern.Search
import ColumnDispatch.Pattern.Tree
import ColumnDispatch.Pattern.Unicode.Classes

/-! What a pattern means: an expression over sets of characters and conditions on positions. Flags
hold from where they are set to the end of the group. Without the flag for Unicode only ASCII
characters have classes and case, and whatever could match a part of a character is refused. -/

namespace ColumnDispatch.Pattern

/-! ### Flags -/

structure Flags where
  ignoreCase : Bool := false
  multiLine : Bool := false
  dotNewline : Bool := false
  unicode : Bool := true
  crlf : Bool := false

namespace Flags

/-- The flags after a change; whether repetitions are lazy makes no difference to a search. -/
def change (f : Flags) (c : FlagChange) : Flags :=
  match c.flag with
  | .ignoreCase => { f with ignoreCase := c.on }
  | .multiLine => { f with multiLine := c.on }
  | .dotNewline => { f with dotNewline := c.on }
  | .unicode => { f with unicode := c.on }
  | .crlf => { f with crlf := c.on }
  | .swapGreed | .ignoreBlanks => f

def changes (f : Flags) (cs : List FlagChange) : Flags := cs.foldl change f

/-- The closure of a set under case, if case is ignored. -/
def close (f : Flags) (s : CharSet) : CharSet :=
  if !f.ignoreCase then s else if f.unicode then s.ignoringCase else s.ignoringAsciiCase

end Flags

/-! ### Sets -/

def AsciiClass.set : AsciiClass → CharSet
  | alnum => Char.isAlphanum
  | alpha => Char.isAlpha
  | ascii => (·.toNat < 128)
  | blank => fun c => c == ' ' || c == '\t'
  | cntrl => fun c => c.toNat < 32 || c.toNat = 127
  | digit => Char.isDigit
  | graph => .range '!' '~'
  | lower => .range 'a' 'z'
  | print => .range ' ' '~'
  | punct => fun c => CharSet.range '!' '~' c && !c.isAlphanum
  | space => fun c => c == ' ' || CharSet.range '\t' '\r' c
  | upper => .range 'A' 'Z'
  | word => fun c => c.isAlphanum || c == '_'
  | xdigit => fun c => c.isDigit || CharSet.range 'a' 'f' c || CharSet.range 'A' 'F' c

def Shorthand.set (unicode : Bool) : Shorthand → CharSet
  | digit => if unicode then Unicode.isDigit else AsciiClass.digit.set
  | space => if unicode then Unicode.isSpace else AsciiClass.space.set
  | word => if unicode then Unicode.isWord else AsciiClass.word.set

def isAscii (c : Char) : Bool := c.toNat < 128

/-- The complement of a set, where it is asked for. Without Unicode it would hold bytes that are no
characters. -/
def Flags.negate (f : Flags) (span : Span) (negated : Bool) (s : CharSet) : Except Fault CharSet :=
  if !negated then .ok s
  else if f.unicode then .ok s.complement
  else .error ⟨.invalidUtf8, span, none⟩

/-- The character of a literal, unless it is a byte that is no character. -/
def Literal.scalar (f : Flags) (l : Literal) : Except Fault Char :=
  if !f.unicode && l.isByte && !isAscii l.char then .error ⟨.invalidUtf8, l.span, none⟩
  else .ok l.char

/-- The character of a literal in a set. -/
def Literal.member (f : Flags) (l : Literal) : Except Fault Char := do
  let c ← l.scalar f
  if !f.unicode && !isAscii c then throw ⟨.unicodeNotAllowed, l.span, none⟩
  return c

def ClassItem.set (f : Flags) : ClassItem → Except Fault CharSet
  | literal l => return .single (← l.member f)
  | range _ first last => return .range (← first.member f) (← last.member f)
  | ascii span negated kind => f.negate span negated (f.close kind.set)
  | shorthand span negated kind => f.negate span negated (kind.set f.unicode)
  | property span negated query => do
    if !f.unicode then throw ⟨.unicodeNotAllowed, span, none⟩
    match Unicode.lookup query with
    | .ok sets => f.negate span negated (f.close (Unicode.inAny sets))
    | .error .property => throw ⟨.propertyNotFound, span, none⟩
    | .error .value => throw ⟨.propertyValueNotFound, span, none⟩

def SetOperation.apply : SetOperation → CharSet → CharSet → CharSet
  | intersection => .intersection
  | difference => .difference
  | symmetricDifference => .symmetricDifference

/-- The set before the case of its own members is closed over. Case is closed over before a set is
negated, and in both operands of an operator. -/
def ClassSet.set (f : Flags) : ClassSet → Except Fault CharSet
  | item i => i.set f
  | union _ members => unionSet f members
  | bracketed span negated inner => do f.negate span negated (f.close (← inner.set f))
  | operation _ op left right => do
    let left ← left.set f
    let right ← right.set f
    return op.apply (f.close left) (f.close right)
where
  unionSet (f : Flags) : List ClassSet → Except Fault CharSet
    | [] => .ok .empty
    | member :: rest => return .union (← member.set f) (← unionSet f rest)

/-! ### Conditions on positions -/

/-- What stands at a position of a text: the character in front of it and the one behind. -/
structure Surroundings where
  before? : Option Char
  after? : Option Char

inductive Condition where
  | textStart | textEnd
  | lineStart (crlf : Bool)
  | lineEnd (crlf : Bool)
  | word (unicode : Bool) (kind : Bool → Bool → Bool)

namespace Condition

/-- Whether a position with these surroundings meets the condition. With `crlf` a carriage return
ends a line too, and no line ends between it and a line feed. -/
def holds (s : Surroundings) : Condition → Bool
  | textStart => s.before?.isNone
  | textEnd => s.after?.isNone
  | lineStart crlf =>
    s.before?.isNone || s.before? = some '\n' ||
      (crlf && s.before? = some '\r' && s.after? ≠ some '\n')
  | lineEnd crlf =>
    s.after?.isNone || (crlf && s.after? = some '\r') ||
      (s.after? = some '\n' && !(crlf && s.before? = some '\r'))
  | word unicode kind =>
    let isWord := Shorthand.word.set unicode
    kind (s.before?.any isWord) (s.after?.any isWord)

end Condition

def Assertion.condition (f : Flags) : Assertion → Condition
  | lineStart => if f.multiLine then .lineStart f.crlf else .textStart
  | lineEnd => if f.multiLine then .lineEnd f.crlf else .textEnd
  | textStart => .textStart
  | textEnd => .textEnd
  | wordBoundary => .word f.unicode fun before after => before != after
  | notWordBoundary => .word f.unicode fun before after => before == after
  | wordStart => .word f.unicode fun before after => !before && after
  | wordEnd => .word f.unicode fun before after => before && !after
  | wordStartHalf => .word f.unicode fun before _ => !before
  | wordEndHalf => .word f.unicode fun _ after => !after

/-! ### Expressions -/

inductive Leaf where
  | char (set : CharSet)
  | condition (condition : Condition)

/-- The characters that a dot stands for. -/
def Flags.dot (f : Flags) (span : Span) : Except Fault CharSet :=
  if !f.unicode then .error ⟨.invalidUtf8, span, none⟩
  else if f.dotNewline then .ok fun _ => true
  else .ok fun c => c != '\n' && !(f.crlf && c == '\r')

/-- The characters that an item outside a set stands for. -/
def Flags.item (f : Flags) : ClassItem → Except Fault CharSet
  | .literal l => return f.close (.single (← l.scalar f))
  | item => item.set f

/-- What the part means under the flags, and the flags behind it. -/
def Tree.meaning (f : Flags) : Tree → Except Fault (Expr Leaf × Flags)
  | empty _ => .ok (.empty, f)
  | flags _ changes => .ok (.empty, f.changes changes)
  | dot span => return (.leaf (.char (← f.dot span)), f)
  | item i => return (.leaf (.char (← f.item i)), f)
  | bracketed set => return (.leaf (.char (← set.set f)), f)
  | assertion _ kind => .ok (.leaf (.condition (kind.condition f)), f)
  | repetition _ min max? body => do
    let (body, f) ← body.meaning f
    return (.repetition min max? body, f)
  | group _ _ changes body => do
    let (body, _) ← body.meaning (f.changes changes)
    return (body, f)
  | choice _ branches => do
    let (branches, f) ← meanings f branches
    return (Expr.oneOf branches, f)
  | sequence _ parts => do
    let (parts, f) ← meanings f parts
    return (Expr.concat parts, f)
where
  meanings (f : Flags) : List Tree → Except Fault (List (Expr Leaf) × Flags)
    | [] => .ok ([], f)
    | first :: rest => do
      let (first, f) ← first.meaning f
      let (rest, f) ← meanings f rest
      return (first :: rest, f)

end ColumnDispatch.Pattern
