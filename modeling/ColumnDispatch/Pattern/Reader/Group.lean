import ColumnDispatch.Pattern.Reader.Escape
import ColumnDispatch.Pattern.Unicode.Classes

/-! The openings of groups: a plain bracket, a name for the group, or flags, which may also stand
alone and then hold for the rest of the group around them. -/

namespace ColumnDispatch.Pattern.Reader

/-! ### Names -/

def isNameStart (c : Char) : Bool := c == '_' || Unicode.isAlphabetic c

def isNameChar (c : Char) : Bool :=
  c == '_' || c == '.' || c == '[' || c == ']' || Unicode.isAlphabetic c || Unicode.isNumeric c

/-- The number of characters at the start of a name that may stand there. -/
def nameCount (name : List Char) : Nat :=
  match name with
  | [] => 0
  | c :: rest => if isNameStart c then (rest.takeWhile isNameChar).length + 1 else 0

/-- Reads a name that no group in front has, and the bracket behind it. -/
def groupName : Reader Unit := do
  let start ← offset
  let name := (← get).rest.takeWhile (· != '>')
  let good := nameCount name
  if good < name.length then fail .groupNameInvalid ⟨start + good, start + good + 1⟩
  modify (·.drop name.length)
  if ← atEnd then fail .groupNameUnclosed (← here)
  let span ← spanFrom start
  bump
  if name.isEmpty then fail .groupNameEmpty span
  let text := String.ofList name
  if let some earlier := (← get).names.lookup text then
    throw ⟨.groupNameDuplicate, span, some earlier⟩
  modify fun c => { c with names := (text, span) :: c.names }

/-! ### Flags -/

/-- A letter or a dash among flags, with its place. -/
structure FlagMark where
  flag? : Option Flag
  span : Span

/-- The flags in front of the dash are set, those behind it cleared. -/
def changesOfMarks (marks : List FlagMark) : List FlagChange :=
  let on := marks.takeWhile (·.flag?.isSome)
  let off := marks.drop on.length
  on.filterMap (·.flag?.map (⟨·, true⟩)) ++ off.filterMap (·.flag?.map (⟨·, false⟩))

def flagMark : Reader FlagMark := do
  let span ← charSpan
  match ← peek? with
  | some '-' => return ⟨none, span⟩
  | some c =>
    match Flag.ofChar? c with
    | some flag => return ⟨some flag, span⟩
    | none => fail .flagUnrecognized span
  | none => fail .flagUnfinished (← here)

/-- Reads flags up to a colon or a closing bracket. -/
def flagMarks : Nat → List FlagMark → Reader (List FlagMark)
  | 0, marks => return marks
  | fuel + 1, marks => do
    if [some ':', some ')'].contains (← peek?) then
      match marks.getLast? with
      | some ⟨none, span⟩ => fail .flagDangling span
      | _ => return marks
    else
      let mark ← flagMark
      if let some earlier := marks.find? (·.flag? = mark.flag?) then
        let reason := if mark.flag?.isSome then .flagDuplicate else .flagRepeatedNegation
        throw ⟨reason, mark.span, some earlier.span⟩
      bump
      if ← atEnd then fail .flagUnfinished (← here)
      flagMarks fuel (marks ++ [mark])

/-! ### Openings -/

inductive GroupOpening where
  /-- A group, with flags of its own if it does not capture. -/
  | group (captures : Bool) (changes : List FlagChange)
  /-- Flags without a group, which have been read to the end. -/
  | flags (changes : List FlagChange)

def bumpIfAny (texts : List String) : Reader Bool := do
  match texts.find? (·.toList.isPrefixOf (← get).rest) with
  | some text =>
    modify (·.drop text.length)
    return true
  | none => return false

/-- Reads the bracket and what belongs to it. -/
def groupOpening : Reader GroupOpening := do
  let bracket ← charSpan
  advance
  if ← bumpIfAny ["?=", "?!", "?<=", "?<!"] then fail .lookAround (← spanFrom bracket.start)
  let inside ← here
  if ← bumpIfAny ["?P<", "?<"] then
    groupName
    return .group true []
  if !(← bumpIf "?") then return .group true []
  if ← atEnd then fail .groupUnclosed bracket
  let changes := changesOfMarks (← flagMarks (← get).rest.length [])
  let closes := (← peek?) = some ')'
  bump
  if !closes then return .group false changes
  if changes.isEmpty then fail .repetitionMissing inside
  return .flags changes

end ColumnDispatch.Pattern.Reader
