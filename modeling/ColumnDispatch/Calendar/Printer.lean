import ColumnDispatch.Calendar.Civil

/-! Dates and instants as ISO text. A year outside 0000 to 9999 has a sign; the fraction of a second
is left out when it is zero and has three or six digits otherwise. An instant with a time zone is
written in local time, with the offset behind it. Dates and instants outside the showable years have
no text. -/

namespace ColumnDispatch.Calendar

/-- A number with zeros in front, up to a width. -/
def padded (width n : Nat) : String :=
  let digits := toString n
  "".pushn '0' (width - digits.length) ++ digits

def yearText (year : Int) : String :=
  if 0 ≤ year ∧ year ≤ 9999 then padded 4 year.toNat
  else (if year < 0 then "-" else "+") ++ padded 4 year.natAbs

def Civil.text (c : Civil) : String := s!"{yearText c.year}-{padded 2 c.month}-{padded 2 c.day}"

/-- The text of the date that many days from the start of 1970. -/
def dateText? (days : Int) : Option String :=
  let civil := Civil.ofDayNumber days
  if civil.isShowable then some civil.text else none

def microsPerSecond : Int := 1000000

def secondsPerDay : Int := 86400

def microsPerDay : Int := secondsPerDay * microsPerSecond

/-- The fraction of a second with its point. -/
def fractionText (micros : Nat) : String :=
  if micros = 0 then ""
  else if micros % 1000 = 0 then "." ++ padded 3 (micros / 1000)
  else "." ++ padded 6 micros

/-- The text of a time of day. -/
def timeText (micros : Nat) : String :=
  let seconds := micros / 1000000
  s!"{padded 2 (seconds / 3600)}:{padded 2 (seconds / 60 % 60)}:{padded 2 (seconds % 60)}" ++
    fractionText (micros % 1000000)

/-- The text of the instant that many microseconds from the start of 1970. -/
def instantText? (micros : Int) : Option String :=
  (dateText? (micros / microsPerDay)).map (· ++ "T" ++ timeText (micros % microsPerDay).toNat)

/-- The text of an offset from universal time in seconds. -/
def zoneText (offset : Int) : String :=
  let minutes := offset.natAbs / 60
  if offset = 0 then "Z"
  else (if offset < 0 then "-" else "+") ++ s!"{padded 2 (minutes / 60)}:{padded 2 (minutes % 60)}"

/-- The text of an instant at an offset from universal time. It is in universal time that the
instant has to be of a showable year. -/
def localText? (offset micros : Int) : Option String :=
  let here := micros + offset * microsPerSecond
  let text := (Civil.ofDayNumber (here / microsPerDay)).text ++ "T" ++
    timeText (here % microsPerDay).toNat ++ zoneText offset
  if (Civil.ofDayNumber (micros / microsPerDay)).isShowable then some text else none

end ColumnDispatch.Calendar
