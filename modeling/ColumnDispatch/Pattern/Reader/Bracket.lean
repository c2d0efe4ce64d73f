import ColumnDispatch.Pattern.Reader.Escape

/-! Bracketed sets. The members of a set are joined; the operators `&&`, `--` and `~~` take all that
is in front of them, since the opening bracket, as their left operand. -/

namespace ColumnDispatch.Pattern.Reader

/-! ### Members -/

/-- The members of a set that have been read, the last one first, and where the first one starts. -/
structure Members where
  start : Nat
  reversed : List ClassSet

namespace Members

def add (m : Members) (member : ClassSet) : Members := { m with reversed := member :: m.reversed }

def toSet (m : Members) : ClassSet :=
  match m.reversed with
  | [] => .union ⟨m.start, m.start⟩ []
  | [member] => member
  | last :: _ =>
    let members := m.reversed.reverse
    .union ⟨(members.head?.map (·.span.start)).getD m.start, last.span.stop⟩ members

end Members

/-- The operator in front of the members that are being read, with its left operand. -/
abbrev Pending := Option (SetOperation × ClassSet)

def Pending.apply (pending : Pending) (right : ClassSet) : ClassSet :=
  match pending with
  | some (op, left) => .operation ⟨left.span.start, right.span.stop⟩ op left right
  | none => right

/-! ### One member -/

/-- Reads one character or escape of a set. -/
def setAtom : Reader Tree := do
  match ← peek? with
  | some '\\' => escape
  | some c =>
    let span ← charSpan
    bump
    return .item (.literal ⟨span, c, false⟩)
  | none => return .empty (← here)

def memberOfAtom : Tree → Reader ClassItem
  | .item item => return item
  | atom => fail .classEscapeInvalid atom.span

def boundOfAtom : Tree → Reader Literal
  | .item (.literal l) => return l
  | atom => fail .classRangeLiteral atom.span

/-- Whether a dash that comes next joins the ends of a range. -/
def dashJoins : Reader Bool := do
  let c ← get
  let second := c.second?
  return c.rest.head? = some '-' && second ≠ some ']' && second ≠ some '-'

/-- Reads a character, an escape or a range. `head` is the opening of the set. -/
def setMember (head : Span) : Reader ClassItem := do
  let first ← setAtom
  skipBlanks
  if ← atEnd then fail .classUnclosed head
  if !(← dashJoins) then return ← memberOfAtom first
  advance
  if ← atEnd then fail .classUnclosed head
  let last ← setAtom
  let span : Span := ⟨first.span.start, last.span.stop⟩
  let low ← boundOfAtom first
  let high ← boundOfAtom last
  if high.char < low.char then fail .classRangeInvalid span
  return .range span low high

/-- Reads a named set of ASCII characters, if the bracket that comes next opens one. -/
def asciiMember? : Reader (Option ClassItem) := do
  let outside ← get
  if !(← bumpIf "[:") then return none
  let negated ← bumpIf "^"
  let name := (← get).rest.takeWhile (· != ':')
  modify (·.drop name.length)
  match AsciiClass.ofName? (String.ofList name), ← bumpIf ":]" with
  | some kind, true => return some (.ascii (← spanFrom outside.offset) negated kind)
  | _, _ =>
    set outside
    return none

/-! ### The opening -/

/-- Reads the dashes at the start of a set, which stand for themselves. -/
def leadingDashes (bracket : Nat) : Nat → Members → Reader Members
  | 0, members => return members
  | fuel + 1, members => do
    if (← peek?) ≠ some '-' then return members
    let span ← charSpan
    advance
    if ← atEnd then fail .classUnclosed ⟨bracket, bracket⟩
    leadingDashes bracket fuel (members.add (.item (.literal ⟨span, '-', false⟩)))

structure Opening where
  span : Span
  negated : Bool
  members : Members

/-- Reads the bracket, the mark of negation, and what stands for itself only at the start. -/
def opening : Reader Opening := do
  let bracket ← offset
  advance
  requireMore .classUnclosed bracket
  let negated := (← peek?) = some '^'
  if negated then
    advance
    requireMore .classUnclosed bracket
  let dashes ← leadingDashes bracket (← get).rest.length ⟨← offset, []⟩
  if !dashes.reversed.isEmpty || (← peek?) ≠ some ']' then
    return ⟨← spanFrom bracket, negated, dashes⟩
  let span ← charSpan
  advance
  requireMore .classUnclosed bracket
  return ⟨← spanFrom bracket, negated, dashes.add (.item (.literal ⟨span, ']', false⟩))⟩

/-! ### The body -/

def operationMarks : List (String × SetOperation) :=
  [("&&", .intersection), ("--", .difference), ("~~", .symmetricDifference)]

/-- Reads the mark of an operator, if one comes next. -/
def setOperation? : Reader (Option SetOperation) := do
  let rest := (← get).rest
  match operationMarks.find? fun (mark, _) => mark.toList.isPrefixOf rest with
  | some (mark, op) =>
    modify (·.drop mark.length)
    return some op
  | none => return none

/-- Reads a set from behind its opening to its closing bracket. Every round reads a character, so a
fuel above the number of characters left suffices. -/
def setBody (head : Opening) : Nat → Pending → Members → Reader ClassSet
  | 0, pending, members => return pending.apply members.toSet
  | fuel + 1, pending, members => do
    skipBlanks
    match ← peek? with
    | none => fail .classUnclosed head.span
    | some ']' =>
      bump
      let inner := pending.apply members.toSet
      return .bracketed (← spanFrom head.span.start) head.negated inner
    | some '[' =>
      match ← asciiMember? with
      | some item => setBody head fuel pending (members.add (.item item))
      | none =>
        let nested ← opening
        let inner ← setBody nested fuel none nested.members
        setBody head fuel pending (members.add inner)
    | some _ =>
      match ← setOperation? with
      | some op =>
        setBody head fuel (some (op, pending.apply members.toSet)) ⟨← offset, []⟩
      | none =>
        let item ← setMember head.span
        setBody head fuel pending (members.add (.item item))

/-- Reads a set, brackets included. -/
def bracketed : Reader ClassSet := do
  let head ← opening
  setBody head ((← get).rest.length + 1) none head.members

end ColumnDispatch.Pattern.Reader
