import ColumnDispatch.Pattern.Cursor

/-! Escapes: what a backslash and the characters behind it stand for. -/

namespace ColumnDispatch.Pattern.Reader

/-! ### Characters by number -/

def isHexDigit (c : Char) : Bool :=
  c.isDigit || ('a' ≤ c && c ≤ 'f') || ('A' ≤ c && c ≤ 'F')

def hexValue (c : Char) : Nat :=
  if c.isDigit then c.toNat - '0'.toNat
  else if c.isUpper then c.toNat - 'A'.toNat + 10
  else c.toNat - 'a'.toNat + 10

/-- The character whose number the digits spell. -/
def charOfHex? (digits : List Char) : Option Char :=
  let n := digits.foldl (fun n c => 16 * n + hexValue c) 0
  if n.isValidChar then some (Char.ofNat n) else none

/-- Reads exactly `count` digits. -/
def hexDigits : Nat → Reader (List Char)
  | 0 => return []
  | count + 1 => do
    match ← peek? with
    | none => fail .escapeUnfinished (← here)
    | some c =>
      if !isHexDigit c then fail .hexInvalidDigit (← charSpan)
      advance
      return c :: (← hexDigits count)

/-- Reads a character written in as many digits as its letter asks for. -/
def fixedHex (start count : Nat) : Reader Literal := do
  let first ← offset
  let digits ← hexDigits count
  match charOfHex? digits with
  | some c => return ⟨← spanFrom start, c, count = 2⟩
  | none => fail .hexInvalid (← spanFrom first)

/-- Reads a character written in any number of digits between braces. -/
def bracedHex (start : Nat) : Reader Literal := do
  let brace ← offset
  advance
  let digits ← collect isHexDigit
  requireMore .escapeUnfinished brace
  if (← peek?) ≠ some '\x7d' then fail .hexInvalidDigit (← charSpan)
  let behind ← offset
  advance
  if digits.isEmpty then fail .hexEmpty (← spanFrom brace)
  match charOfHex? digits with
  | some c => return ⟨← spanFrom start, c, false⟩
  | none => fail .hexInvalid ⟨brace + 1, behind⟩

/-- Reads what follows the letter `x`, `u` or `U`, which takes `count` digits. -/
def hexEscape (start count : Nat) : Reader Tree := do
  advance
  if (← peek?) = some '\x7b' then return .item (.literal (← bracedHex start))
  return .item (.literal (← fixedHex start count))

/-! ### Unicode properties -/

/-- The parts of a text in front of and behind the first mark in it. -/
def splitAtMark? (mark : List Char) : List Char → Option (List Char × List Char)
  | [] => none
  | c :: rest =>
    if mark.isPrefixOf (c :: rest) then some ([], (c :: rest).drop mark.length)
    else (splitAtMark? mark rest).map fun (front, back) => (c :: front, back)

/-- A property by its name, or by a name and a value with one of the marks between them. -/
def propertyQuery (text : List Char) : PropertyQuery :=
  match ["!=", ":", "="].findSome? fun mark => splitAtMark? mark.toList text with
  | some (name, value) => .valued (String.ofList name) (String.ofList value)
  | none => .named (String.ofList text)

/-- Reads what follows the letter `p` or `P`. -/
def propertyEscape (start : Nat) (negated : Bool) : Reader Tree := do
  advance
  match ← peek? with
  | none => fail .escapeUnfinished (← here)
  | some '\x7b' =>
    advance
    let name ← collect (· != '\x7d')
    if ← atEnd then fail .escapeUnfinished (← here)
    bump
    return .item (.property (← spanFrom start) negated (propertyQuery name))
  | some '\\' => fail .unicodeClassInvalid (← charSpan)
  | some c =>
    advance
    return .item (.property (← spanFrom start) negated (.named c.toString))

/-! ### Word boundaries -/

def isBoundaryChar (c : Char) : Bool := c.isAlpha || c == '-'

def boundaryOfName? : String → Option Assertion
  | "start" => some .wordStart
  | "end" => some .wordEnd
  | "start-half" => some .wordStartHalf
  | "end-half" => some .wordEndHalf
  | _ => none

/-- Reads the name of a word boundary between braces. Braces that cannot hold a name are left to be
read as a repetition. -/
def namedBoundary? (start : Nat) : Reader (Option Assertion) := do
  let outside ← get
  let brace := outside.offset
  advance
  requireMore .boundaryUnfinished start
  let first ← offset
  let name ← collect isBoundaryChar
  if name.isEmpty then
    set outside
    return none
  if (← peek?) ≠ some '\x7d' then fail .boundaryUnclosed (← spanFrom brace)
  let behind ← offset
  bump
  match boundaryOfName? (String.ofList name) with
  | some boundary => return boundary
  | none => fail .boundaryUnrecognized ⟨first, behind⟩

def wordBoundary (start : Nat) : Reader Tree := do
  let boundary? ← if (← peek?) = some '\x7b' then namedBoundary? start else pure none
  return .assertion (← spanFrom start) (boundary?.getD .wordBoundary)

/-! ### All escapes -/

/-- Whether a backslash makes the character stand for itself: any ASCII character but letters,
digits and angle brackets. -/
def isEscapable (c : Char) : Bool := c.toNat < 128 && !c.isAlphanum && c != '<' && c != '>'

def controlOfLetter? : Char → Option Char
  | 'a' => some '\x07'
  | 'f' => some '\x0c'
  | 't' => some '\t'
  | 'n' => some '\n'
  | 'r' => some '\r'
  | 'v' => some '\x0b'
  | _ => none

def assertionOfLetter? : Char → Option Assertion
  | 'A' => some .textStart
  | 'z' => some .textEnd
  | 'B' => some .notWordBoundary
  | '<' => some .wordStart
  | '>' => some .wordEnd
  | _ => none

def shorthandOfLetter? : Char → Option (Bool × Shorthand)
  | 'd' => some (false, .digit)
  | 's' => some (false, .space)
  | 'w' => some (false, .word)
  | 'D' => some (true, .digit)
  | 'S' => some (true, .space)
  | 'W' => some (true, .word)
  | _ => none

def hexWidth? : Char → Option Nat
  | 'x' => some 2
  | 'u' => some 4
  | 'U' => some 8
  | _ => none

/-- Reads the rest of an escape of one letter. -/
def letterEscape (start : Nat) (c : Char) : Reader Tree := do
  bump
  let span ← spanFrom start
  if isEscapable c then return .item (.literal ⟨span, c, false⟩)
  if c == 'b' then return ← wordBoundary start
  if let some (negated, kind) := shorthandOfLetter? c then
    return .item (.shorthand span negated kind)
  if let some control := controlOfLetter? c then return .item (.literal ⟨span, control, false⟩)
  match assertionOfLetter? c with
  | some assertion => return .assertion span assertion
  | none => fail .escapeUnrecognized span

def escape : Reader Tree := do
  let start ← offset
  bump
  match ← peek? with
  | none => fail .escapeUnfinished (← spanFrom start)
  | some c =>
    if c.isDigit then fail .backreference ⟨start, (← offset) + 1⟩
    else if let some width := hexWidth? c then hexEscape start width
    else if c == 'p' || c == 'P' then propertyEscape start (c == 'P')
    else letterEscape start c

end ColumnDispatch.Pattern.Reader
