import ColumnDispatch.Pattern.Reader.Bracket
import ColumnDispatch.Pattern.Reader.Group
import ColumnDispatch.Power

/-! Reading a pattern. The reader goes through the parts of a sequence, keeps the branches of a
choice that it has left behind, and calls itself for the inside of a group. What it accepts has to
stay within the nesting limit. -/

namespace ColumnDispatch.Pattern

namespace Reader

/-! ### Repetitions -/

/-- Reads a number, which blanks may surround; a number that is wrong or missing is told later. -/
def decimal : Reader (Except Fault Nat) := do
  modify fun c => c.drop (c.rest.takeWhile Text.isBlank).length
  let start ← offset
  let digits ← collect Char.isDigit
  let span ← spanFrom start
  let _ ← collect Text.isBlank
  let n := digits.foldl (fun n c => 10 * n + (c.toNat - '0'.toNat)) 0
  if digits.isEmpty then return .error ⟨.countMissing, span, none⟩
  return if n < 2 ^ 32 then .ok n else .error ⟨.decimalInvalid, span, none⟩

/-- Reads the counts of a repetition up to its closing brace. -/
def counts (brace : Nat) : Reader (Nat × Option Nat) := do
  let min ← decimal
  requireMore .countUnclosed brace
  if (← peek?) ≠ some ',' then
    let min ← liftExcept min
    return (min, some min)
  advance
  requireMore .countUnclosed brace
  let min ← liftExcept min
  if (← peek?) = some '\x7d' then return (min, none)
  return (min, some (← liftExcept (← decimal)))
where
  liftExcept (n : Except Fault Nat) : Reader Nat := StateT.lift n

/-- Reads the counts of a repetition, braces included, and what makes it lazy. -/
def countedRepetition : Reader (Nat × Option Nat) := do
  let brace ← offset
  advance
  requireMore .countUnclosed brace
  let (min, max?) ← counts brace
  if (← peek?) ≠ some '\x7d' then fail .countUnclosed (← spanFrom brace)
  advance
  let _ ← bumpIf "?"
  if max?.any (· < min) then fail .countInvalid (← spanFrom brace)
  return (min, max?)

/-- Reads a repetition of one letter, and what makes it lazy. -/
def letterRepetition (counts : Nat × Option Nat) : Reader (Nat × Option Nat) := do
  bump
  let _ ← bumpIf "?"
  return counts

/-- The reader of the repetition that a character begins. -/
def repetition? : Char → Option (Reader (Nat × Option Nat))
  | '?' => some (letterRepetition (0, some 1))
  | '*' => some (letterRepetition (0, none))
  | '+' => some (letterRepetition (1, none))
  | '\x7b' => some countedRepetition
  | _ => none

/-! ### Parts -/

/-- Reads one part that is neither a group nor a repetition. -/
def part : Reader Tree := do
  let span ← charSpan
  match ← peek? with
  | none => return .empty (← here)
  | some '\\' => escape
  | some '[' => return .bracketed (← bracketed)
  | some c =>
    bump
    match c with
    | '.' => return .dot span
    | '^' => return .assertion span .lineStart
    | '$' => return .assertion span .lineEnd
    | _ => return .item (.literal ⟨span, c, false⟩)

/-! ### Sequences and choices -/

/-- A sequence being read: where it starts, and its parts, the last one first. -/
structure Sequence where
  start : Nat
  reversed : List Tree

/-- The branches of a choice that have been read, the last one first, and where the first starts. -/
structure Branches where
  start : Nat
  reversed : List Tree

def Sequence.toTree (s : Sequence) (stop : Nat) : Tree :=
  match s.reversed with
  | [] => .empty ⟨s.start, stop⟩
  | [part] => part
  | parts => .sequence ⟨s.start, stop⟩ parts.reverse

/-- The choice with the last branch, or that branch alone if there is no other. -/
def Branches.toTree (b : Branches) (last : Tree) (stop : Nat) : Tree :=
  match b.reversed with
  | [] => last
  | branches => .choice ⟨b.start, stop⟩ (last :: branches).reverse

/-- Begins or ceases to ignore blanks, if the flags say so. -/
def applyFlags (changes : List FlagChange) : Reader Unit := do
  if let some change := changes.find? (·.flag = .ignoreBlanks) then
    modify fun c => { c with ignoresBlanks := change.on }

/-- Reads a sequence and the branches behind it, up to the bracket that closes the group that begins
with `bracket?`, or up to the end. Every round reads a character, so a fuel above the number of
characters left suffices. -/
def branches (bracket? : Option Span) : Nat → Branches → Sequence → Reader Tree
  | 0, done, current => return done.toTree (current.toTree current.start) current.start
  | fuel + 1, done, current => do
    skipBlanks
    let stop ← offset
    let whole := done.toTree (current.toTree stop) stop
    match ← peek? with
    | none =>
      match bracket? with
      | some bracket => fail .groupUnclosed bracket
      | none => return whole
    | some ')' =>
      if bracket?.isNone then fail .groupUnopened (← charSpan)
      return whole
    | some '|' =>
      bump
      let rest : Sequence := ⟨← offset, []⟩
      branches bracket? fuel { done with reversed := current.toTree stop :: done.reversed } rest
    | some '(' =>
      let bracket ← charSpan
      let outer := (← get).ignoresBlanks
      match ← groupOpening with
      | .flags changes =>
        applyFlags changes
        let tree := .flags (← spanFrom bracket.start) changes
        branches bracket? fuel done { current with reversed := tree :: current.reversed }
      | .group captures changes =>
        applyFlags changes
        let start ← offset
        let body ← branches bracket fuel ⟨start, []⟩ ⟨start, []⟩
        modify fun c => { c with ignoresBlanks := outer }
        bump
        let tree := .group (← spanFrom bracket.start) captures changes body
        branches bracket? fuel done { current with reversed := tree :: current.reversed }
    | some c =>
      match repetition? c with
      | none =>
        let tree ← part
        branches bracket? fuel done { current with reversed := tree :: current.reversed }
      | some read =>
        match current.reversed with
        | [] => fail .repetitionMissing (← here)
        | body :: before =>
          if !body.isRepeatable then fail .repetitionMissing (← here)
          let (min, max?) ← read
          let tree := .repetition ⟨body.span.start, ← offset⟩ min max? body
          branches bracket? fuel done { current with reversed := tree :: before }

end Reader

/-! ### The nesting limit -/

/-- The part where the nesting first gets deeper than the limit, if `depth` levels are around. -/
def ClassSet.tooDeep? (depth : Nat) : ClassSet → Option Span
  | item _ => none
  | union _ [] => none
  | union span (first :: rest) =>
    if nestLimit ≤ depth then some span
    else (first.tooDeep? (depth + 1)).or (membersTooDeep? (depth + 1) rest)
  | bracketed span _ inner =>
    if nestLimit ≤ depth then some span else inner.tooDeep? (depth + 1)
  | operation span _ left right =>
    if nestLimit ≤ depth then some span
    else (left.tooDeep? (depth + 1)).or (right.tooDeep? (depth + 1))
where
  membersTooDeep? (depth : Nat) : List ClassSet → Option Span
    | [] => none
    | first :: rest => (first.tooDeep? depth).or (membersTooDeep? depth rest)

/-- The part where the nesting first gets deeper than the limit, if `depth` levels are around. -/
def Tree.tooDeep? (depth : Nat) : Tree → Option Span
  | empty _ | flags _ _ | dot _ | item _ | assertion _ _ => none
  | bracketed set => set.tooDeep? depth
  | repetition span _ _ body | group span _ _ body =>
    if nestLimit ≤ depth then some span else body.tooDeep? (depth + 1)
  | choice span branches =>
    if nestLimit ≤ depth then some span else allTooDeep? (depth + 1) branches
  | sequence span parts =>
    if nestLimit ≤ depth then some span else allTooDeep? (depth + 1) parts
where
  allTooDeep? (depth : Nat) : List Tree → Option Span
    | [] => none
    | first :: rest => (first.tooDeep? depth).or (allTooDeep? depth rest)

/-- What a pattern says. -/
def Tree.ofPattern (pattern : String) : Except Fault Tree := do
  let start := Cursor.ofPattern pattern
  let fuel := start.rest.length + 1
  let (tree, _) ← (Reader.branches none fuel ⟨0, []⟩ ⟨0, []⟩).run start
  match tree.tooDeep? 0 with
  | some span => throw ⟨.nestLimitExceeded, span, none⟩
  | none => return tree

end ColumnDispatch.Pattern
