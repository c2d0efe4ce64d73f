import ColumnDispatch.Calendar.Printer
import ColumnDispatch.Power
import ColumnDispatch.Text.Blank

/-! Reading dates and instants. A form is a row of slots laid over the bytes of a text from a given
place on: a digit, a given byte, or anything but a digit, which includes the end of the text. A date
has four separated forms, where the month and the day may be short, and a compact one; a longer text
is read as an instant and counts on the day it falls on in universal time. An instant is a full
date, alone or followed by a time with an optional fraction and an optional offset from universal
time. -/

namespace ColumnDispatch.Calendar

/-! ### Forms -/

inductive Slot where
  | digit
  | exactly (c : Char)
  | noDigit

def isDigitByte (b : UInt8) : Bool := 48 ≤ b && b ≤ 57

def Slot.fits : Slot → Option UInt8 → Bool
  | digit, some b => isDigitByte b
  | digit, none => false
  | exactly c, some b => b.toNat = c.toNat
  | exactly _, none => false
  | noDigit, some b => !isDigitByte b
  | noDigit, none => true

/-- Whether the bytes begin as the slots say. -/
def fits : List Slot → List UInt8 → Bool
  | [], _ => true
  | slot :: slots, [] => slot.fits none && fits slots []
  | slot :: slots, b :: bytes => slot.fits (some b) && fits slots bytes

/-- A form from a picture: `0` for a digit, `_` for anything else than a digit, and every other
character for itself. -/
def form (picture : String) : List Slot :=
  picture.toList.map fun c => if c == '0' then .digit else if c == '_' then .noDigit else .exactly c

/-- The number that the digits among `count` bytes from `start` on spell. -/
def number (bytes : List UInt8) (start count : Nat) : Nat :=
  (((bytes.drop start).take count).filter isDigitByte).foldl (fun n b => 10 * n + (b.toNat - 48)) 0

/-! ### Dates -/

def Civil.dayNumber? (c : Civil) : Option Int := if c.isValid then some c.dayNumber else none

/-- A date whose year, month and day stand at the given places. -/
def dateAt (bytes : List UInt8) (month day : Nat × Nat) : Option Int :=
  Civil.dayNumber?
    ⟨number bytes 0 4, number bytes month.1 month.2, number bytes day.1 day.2⟩

def fullDate : List Slot := form "0000-00-00"

/-- A date of at most ten bytes. -/
def shortDate? (bytes : List UInt8) : Option Int :=
  if fits fullDate bytes then dateAt bytes (5, 2) (8, 2)
  else if fits (form "0000-00-0_") bytes then dateAt bytes (5, 2) (8, 1)
  else if fits (form "0000-0-00_") bytes then dateAt bytes (5, 1) (7, 2)
  else if fits (form "0000-0-0__") bytes then dateAt bytes (5, 1) (7, 1)
  else if fits (form "00000000__") bytes && bytes.length = 8 then dateAt bytes (4, 2) (6, 2)
  else none

/-! ### Instants -/

/-- An instant in whole seconds from the start of 1970 and microseconds, more than a second of them
inside a leap second. -/
structure Instant where
  seconds : Int
  micros : Nat
  deriving DecidableEq, Repr

namespace Instant

def toMicros (i : Instant) : Int := i.seconds * microsPerSecond + i.micros

/-- The day that the instant falls on in universal time. -/
def day (i : Instant) : Int := i.seconds / secondsPerDay

end Instant

inductive InstantFault where
  | tooShort | date | separator | time
  /-- The offset is not in hours and minutes, or not less than a day. -/
  | zone (text : String)
  deriving DecidableEq, Repr

/-- What is wrong with the text. -/
def InstantFault.message (text : String) (fault : InstantFault) : String :=
  let about (reason : String) := s!"Error parsing timestamp from '{text}': {reason}"
  match fault with
  | tooShort => about "timestamp must contain at least 10 characters"
  | date => about "error parsing date"
  | separator => about "invalid timestamp separator"
  | time => about "error parsing time"
  | zone label =>
    let supported := "only offset based timezones supported without chrono-tz feature"
    s!"Invalid timezone \"{label}\": {supported}"

/-- A time of day. The second 60 is the leap second, which belongs to the second before it. -/
def timeOfDay? (hour minute second micros : Nat) : Option Instant :=
  if hour < 24 ∧ minute < 60 ∧ second ≤ 60 then
    let leap := second = 60
    some ⟨hour * 3600 + minute * 60 + (if leap then 59 else second),
      if leap then 1000000 + micros else micros⟩
  else none

/-- The microseconds that the digits of a fraction spell, whatever their number. -/
def fractionMicros (digits : List UInt8) : Nat :=
  let kept := digits.take 6
  number kept 0 6 * 10 ^ (6 - kept.length)

/-- A time of day from the start of the bytes, and the bytes behind it. -/
def time? (bytes : List UInt8) : Option (Instant × List UInt8) :=
  if fits (form "00:00:00") bytes then
    let clock := timeOfDay? (number bytes 0 2) (number bytes 3 2) (number bytes 6 2)
    match bytes.drop 8 with
    | 46 :: rest =>
      let digits := rest.takeWhile isDigitByte
      if digits.isEmpty then none
      else (clock (fractionMicros digits)).map (·, rest.dropWhile isDigitByte)
    | rest => (clock 0).map (·, rest)
  else if fits (form "000000__") bytes then
    (timeOfDay? (number bytes 0 2) (number bytes 2 2) (number bytes 4 2) 0).map (·, bytes.drop 6)
  else none

/-- The seconds in hours, and minutes that may be set off by a colon or left out. -/
def hoursMinutes? (bytes : List UInt8) : Option Nat :=
  let hours := number bytes 0 2 * 3600
  if bytes.length = 5 ∧ fits (form "00:00") bytes then some (hours + number bytes 3 2 * 60)
  else if bytes.length = 4 ∧ fits (form "0000") bytes then some (hours + number bytes 2 2 * 60)
  else if bytes.length = 2 ∧ fits (form "00") bytes then some hours
  else none

/-- An offset from universal time in seconds: a sign, and hours and minutes that are less than a
day. -/
def offset? : List UInt8 → Option Int
  | [] => none
  | sign :: clock =>
    (hoursMinutes? clock).bind fun seconds =>
      if secondsPerDay ≤ seconds then none
      else if sign = 43 then some seconds
      else if sign = 45 then some (-seconds)
      else none

/-- The offset that the label of a time zone spells. -/
def zoneOffset? (label : String) : Except InstantFault Int :=
  match offset? label.toUTF8.data.toList with
  | some seconds => .ok seconds
  | none => .error (.zone label)

/-- The offset that a text after the time spells: nothing and `Z` stand for universal time. -/
def offsetText? (text : List Char) : Except InstantFault Int :=
  if text.isEmpty || text = ['Z'] || text = ['z'] then .ok 0
  else zoneOffset? (String.ofList (Text.trimStart text))

def isSeparator (b : UInt8) : Bool := ['T', 't', ' '].any (b.toNat = ·.toNat)

def instant? (text : String) : Except InstantFault Instant := do
  let bytes := text.toUTF8.data.toList
  if bytes.length < 10 then throw .tooShort
  let some day := if fits fullDate bytes then dateAt bytes (5, 2) (8, 2) else none | throw .date
  match bytes.drop 10 with
  | [] => return ⟨day * secondsPerDay, 0⟩
  | separator :: clock =>
    if !isSeparator separator then throw .separator
    let some (time, rest) := time? clock | throw .time
    -- what has been read is ASCII, so it has as many characters as bytes
    let offset ← offsetText? (text.toList.drop (bytes.length - rest.length))
    return ⟨day * secondsPerDay + time.seconds - offset, time.micros⟩

/-- The day that a text names. -/
def date? (text : String) : Option Int :=
  let bytes := text.toUTF8.data.toList
  if bytes.length ≤ 10 then shortDate? bytes
  else
    match instant? text with
    | .ok instant => some instant.day
    | .error _ => none

end ColumnDispatch.Calendar
