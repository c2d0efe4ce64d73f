import ColumnDispatch.Calendar.Reader
import ColumnDispatch.Checked
import ColumnDispatch.Decimal.Layout
import ColumnDispatch.Decimal.Numeral
import ColumnDispatch.Kernel.Rowwise

/-! Casts. A cast converts every value of a column to another type, and fails at the first value
that has no counterpart there; it never makes a value null. The second operand of a cast only says
which type is meant. Texts and dates of timestamps that still have a time zone are of its local
time, so the cast fails if the label of the zone spells no offset, even where there are no
values. -/

namespace ColumnDispatch.Kernel

def castFault (text : String) : Failure := .compute (.about .cast text)

/-- A text that spells no value of the format. -/
def unreadable (text format : String) : Failure :=
  castFault s!"Cannot cast string '{text}' to value of {format} type"

/-- A value that the format has no room for. -/
def unfitting (value format : String) : Failure :=
  castFault s!"Can't cast value {value} to type {format}"

/-! ### Texts -/

/-- Doubles between `1e-5` and `1e16` are written without an exponent. -/
def doubleLayout : Decimal.Layout := ⟨-5, 16⟩

/-- Singles between `1e-6` and `1e13` are written without an exponent. -/
def singleLayout : Decimal.Layout := ⟨-6, 13⟩

/-- How failures show floating-point numbers. -/
def faultLayout : Decimal.Layout := ⟨-4, 16⟩

def truthWords : List String := ["t", "tr", "tru", "true", "y", "ye", "yes", "on", "1"]

def falsehoodWords : List String := ["f", "fa", "fal", "fals", "false", "n", "no", "of", "off", "0"]

def readBool (text : String) : Except Failure Bool :=
  let word := String.ofList (Text.trim (text.toList.map Char.toLower))
  if truthWords.contains word then .ok true
  else if falsehoodWords.contains word then .ok false
  else .error (castFault s!"Cannot cast value '{word}' to value of Boolean type")

def readInt64 (text : String) : Except Failure Int64 :=
  match (Decimal.integer? text).bind Checked.int64? with
  | some word => .ok word
  | none => .error (unreadable text "Int64")

def readFloat (f : Ieee.Format) (format text : String) : Except Failure (Ieee.Number f) :=
  match Decimal.number? f text with
  | some number => .ok number
  | none => .error (unreadable text format)

def readDate (text : String) : Except Failure Int32 :=
  match (Calendar.date? text).bind Checked.int32? with
  | some day => .ok day
  | none => .error (unreadable text "Date32")

def readTimestamp (text : String) : Except Failure Int64 :=
  match Calendar.instant? text with
  | .ok instant => .ok (Int64.ofInt instant.toMicros)
  | .error fault => .error (.compute (.about .parse (fault.message text)))

def writeBool (b : Bool) : String := if b then "true" else "false"

def writeDate (day : Int32) : Except Failure String :=
  match Calendar.dateText? day.toInt with
  | some text => .ok text
  | none => .error (castFault s!"Failed to convert {day.toInt} to temporal for Date32")

/-- An instant of a year that has no text. -/
def unwritable (t : Int64) (format : Storage) : Failure :=
  castFault s!"Failed to convert {t.toInt} to datetime for {format}"

def writeTimestamp (t : Int64) : Except Failure String :=
  match Calendar.instantText? t.toInt with
  | some text => .ok text
  | none => .error (unwritable t LogicalType.timestamp.storage)

/-! ### Time zones -/

/-- The offset from universal time that the label of a time zone spells. -/
def readZone (zone : String) : Except Failure Int :=
  match Calendar.zoneOffset? zone with
  | .ok offset => .ok offset
  | .error fault => .error (.compute (.about .parse (fault.message zone)))

/-- The text of an instant in the local time of a zone with that offset. -/
def writeLocal (zone : String) (offset : Int) (t : Int64) : Except Failure String :=
  match Calendar.localText? offset t.toInt with
  | some text => .ok text
  | none => .error (unwritable t (.timestamp .microsecond (some zone)))

/-! ### Numbers -/

/-- The integer part of a floating-point number. -/
def truncateFloat {f : Ieee.Format} (x : Ieee.Number f) : Except Failure Int64 :=
  match x.truncate?.bind Checked.int64? with
  | some word => .ok word
  | none => .error (unfitting (faultLayout.write x) "Int64")

def dayOfInt64 (n : Int64) : Except Failure Int32 :=
  match Checked.int32? n.toInt with
  | some day => .ok day
  | none => .error (unfitting (toString n.toInt) "Int32")

/-- The day that an instant falls on, if it can be shown. -/
def dayOfTimestamp (t : Int64) : Except Failure Int32 :=
  let day := t.toInt / Calendar.microsPerDay
  if (Calendar.Civil.ofDayNumber day).isShowable then .ok (Int32.ofInt day)
  else
    let kind := "arrow_array::types::TimestampMicrosecondType"
    .error (castFault s!"Cannot convert {kind} {t.toInt} to datetime")

/-- The day that an instant falls on at an offset from universal time. The instant has to be one
that can be shown; its day is taken also where the offset leads out of the showable years. -/
def localDay (offset : Int) (t : Int64) : Except Failure Int32 :=
  let here := t.toInt + offset * Calendar.microsPerSecond
  (dayOfTimestamp t).map fun _ => Int32.ofInt (here / Calendar.microsPerDay)

/-- The start of a day. -/
def timestampOfDay (day : Int32) : Int64 := Int64.ofInt (day.toInt * Calendar.microsPerDay)

def ofBool (b : Bool) : Int := if b then 1 else 0

/-! ### Conversions by target -/

def toInt64? : (s : Storage) → Option (s.Cell → Except Failure Int64)
  | .int64 | .timestamp .microsecond _ => some .ok
  | .float32 | .float64 => some truncateFloat
  | .boolean => some fun b => .ok (Int64.ofInt (ofBool b))
  | .utf8 => some readInt64
  | .date32 => some fun day => .ok (Int64.ofInt day.toInt)
  | _ => none

def toFloat? (f : Ieee.Format) (format : String) :
    (s : Storage) → Option (s.Cell → Except Failure (Ieee.Number f))
  | .int64 | .timestamp .microsecond _ => some fun n => .ok (.ofInt n.toInt)
  | .float32 | .float64 => some fun x => .ok (x.convert f)
  | .boolean => some fun b => .ok (.ofInt (ofBool b))
  | .utf8 => some (readFloat f format)
  | _ => none

def toBool? : (s : Storage) → Option (s.Cell → Except Failure Bool)
  | .int64 => some fun n => .ok (n ≠ 0)
  | .float32 | .float64 => some fun x => .ok !x.isZero
  | .boolean => some .ok
  | .utf8 => some readBool
  | _ => none

def toText? : (s : Storage) → Option (Except Failure (s.Cell → Except Failure String))
  | .int64 => some (.ok fun n => .ok (toString n.toInt))
  | .float32 => some (.ok fun x => .ok (singleLayout.write x))
  | .float64 => some (.ok fun x => .ok (doubleLayout.write x))
  | .boolean => some (.ok fun b => .ok (writeBool b))
  | .utf8 => some (.ok .ok)
  | .date32 => some (.ok writeDate)
  | .timestamp .microsecond none => some (.ok writeTimestamp)
  | .timestamp .microsecond (some zone) => some ((readZone zone).map (writeLocal zone))
  | _ => none

def toDate? : (s : Storage) → Option (Except Failure (s.Cell → Except Failure Int32))
  | .int64 => some (.ok dayOfInt64)
  | .utf8 => some (.ok readDate)
  | .date32 => some (.ok .ok)
  | .timestamp .microsecond none => some (.ok dayOfTimestamp)
  | .timestamp .microsecond (some zone) => some ((readZone zone).map localDay)
  | _ => none

def toTimestamp? : (s : Storage) → Option (s.Cell → Except Failure Int64)
  | .int64 | .timestamp .microsecond _ => some .ok
  | .float32 | .float64 => some truncateFloat
  | .utf8 => some readTimestamp
  | .date32 => some fun day => .ok (timestampOfDay day)
  | _ => none

/-- How cells of a format become values of a type, if the format itself is in order. -/
def conversion? (source : Storage) : (target : LogicalType) →
    Option (Except Failure (source.Cell → Except Failure target.storage.Cell))
  | .int64 => (toInt64? source).map .ok
  | .float32 => (toFloat? .single "Float32" source).map .ok
  | .float64 => (toFloat? .double "Float64" source).map .ok
  | .bool => (toBool? source).map .ok
  | .string => toText? source
  | .date => toDate? source
  | .timestamp => (toTimestamp? source).map .ok

/-! ### Columns -/

def castCells (target : LogicalType) (c : Column) :
    Except Failure (List (Option target.storage.Cell)) :=
  match conversion? c.storage target with
  | some convert => do eachRow (onPresent (← convert)) c.cells
  | none => .error (castFault s!"Casting from {c.storage} to {target.storage} not supported")

/-- The batch as values of the target type. -/
def castBatch (target : LogicalType) (b : Batch) : Except Failure Batch :=
  if b.column.storage = target.storage then .ok b
  else (castCells target b.column).map (Batch.ofCells target)

/-- The cast kernel for a target type. -/
def cast (target : LogicalType) : BinaryKernel := fun left _ => castBatch target left

end ColumnDispatch.Kernel
