import ColumnDispatch.Text.Affix

/-! Wildcard patterns. In a pattern `%` stands for any run of characters, `_` for any one character,
and a backslash makes the character behind it stand for itself; a backslash at the end stands for
itself. A pattern matches whole texts. `Matches` is this rule as a recursion on the pattern and the
text; `accepts` decides it by the shape of the pattern: a pattern with wildcards at its ends only is
a comparison, a search for an end or a search for a part, and any other is run against every rest of
the text at once. -/

namespace ColumnDispatch.Text.Wildcard

/-- One element of a pattern. -/
inductive Token where
  | run
  | one
  | exactly (c : Char)
  deriving DecidableEq, Repr

def tokens : List Char → List Token
  | [] => []
  | ['\\'] => [.exactly '\\']
  | '\\' :: c :: rest => .exactly c :: tokens rest
  | '%' :: rest => .run :: tokens rest
  | '_' :: rest => .one :: tokens rest
  | c :: rest => .exactly c :: tokens rest

/-- For each rest of a text, the whole text first and the empty one last, whether one more element
in front still matches, given the answers for the pattern behind it. -/
def advance (token : Token) : List Char → List Bool → List Bool
  | [], behind =>
    match token with
    | .run => behind
    | _ => [false]
  | c :: text, behind =>
    let later := advance token text behind.tail
    let here :=
      match token with
      | .exactly d => c == d && behind.tail.headD false
      | .one => behind.tail.headD false
      | .run => behind.headD false || later.headD false
    here :: later

/-- The answers for the empty pattern: only the empty rest matches. -/
def atEnd (text : List Char) : List Bool := text.map (fun _ => false) ++ [true]

def answers (pattern : List Token) (text : List Char) : List Bool :=
  pattern.foldr (advance · text) (atEnd text)

def general (pattern : List Token) (text : List Char) : Bool := (answers pattern text).headD false

/-! ### Shapes -/

inductive Shape where
  | equals (text : List Char)
  | startsWith (text : List Char)
  | endsWith (text : List Char)
  | includes (text : List Char)
  | general (pattern : List Token)
  deriving DecidableEq, Repr

/-- Whether every character of a pattern stands for itself. -/
def isPlain (pattern : List Char) : Bool := pattern.all fun c => c != '%' && c != '_' && c != '\\'

/-- The shape of a pattern; the shapes are tried in the order of the constructors. -/
def shape (pattern : List Char) : Shape :=
  if isPlain pattern then .equals pattern
  else
    let beforeEnd? := (dropLast? ['%'] pattern).filter isPlain
    let afterStart? := (dropFirst? ['%'] pattern).filter isPlain
    let inside? := ((dropFirst? ['%'] pattern).bind (dropLast? ['%'])).filter isPlain
    match beforeEnd?, afterStart?, inside? with
    | some text, _, _ => .startsWith text
    | none, some text, _ => .endsWith text
    | none, none, some text => .includes text
    | none, none, none => .general (tokens pattern)

def Shape.accepts : Shape → List Char → Bool
  | equals expected, text => text == expected
  | startsWith first, text => (dropFirst? first text).isSome
  | endsWith last, text => (dropLast? last text).isSome
  | includes part, text => occursIn part text
  | general pattern, text => Wildcard.general pattern text

/-- Whether the whole text matches the pattern. -/
def accepts (pattern text : String) : Bool := (shape pattern.toList).accepts text.toList

end ColumnDispatch.Text.Wildcard
