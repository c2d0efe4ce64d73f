import ColumnDispatch.LogicalType
import ColumnDispatch.Text.Affix

/-! Storage formats: how the cells of a column are held. Each logical type has one canonical format;
some types also accept others, which are brought to the canonical one when a batch is built. A
format with no logical type is known by its name alone. -/

namespace ColumnDispatch

inductive TimeUnit where
  | second | millisecond | microsecond | nanosecond
  deriving DecidableEq, Repr

namespace TimeUnit

def all : List TimeUnit := [second, millisecond, microsecond, nanosecond]

def name : TimeUnit → String
  | second => "Second"
  | millisecond => "Millisecond"
  | microsecond => "Microsecond"
  | nanosecond => "Nanosecond"

/-- How many of the unit make a second. -/
def perSecond : TimeUnit → Int
  | second => 1
  | millisecond => 1000
  | microsecond => 1000000
  | nanosecond => 1000000000

end TimeUnit

inductive Storage where
  | int64 | float32 | float64 | boolean
  | utf8 | largeUtf8
  | date32 | date64
  | timestamp (unit : TimeUnit) (zone : Option String)
  | other (name : String)
  deriving DecidableEq, Repr

namespace Storage

/-! ### Names -/

/-- The label of a time zone with quotes and backslashes marked by a backslash. -/
def escapeZone : List Char → List Char
  | [] => []
  | c :: rest =>
    if c == '"' || c == '\\' then '\\' :: c :: escapeZone rest else c :: escapeZone rest

def unescapeZone? : List Char → Option (List Char)
  | [] => some []
  | '\\' :: c :: rest => (unescapeZone? rest).map (c :: ·)
  | c :: rest => if c == '"' || c == '\\' then none else (unescapeZone? rest).map (c :: ·)

def name : Storage → String
  | int64 => "Int64"
  | float32 => "Float32"
  | float64 => "Float64"
  | boolean => "Boolean"
  | utf8 => "Utf8"
  | largeUtf8 => "LargeUtf8"
  | date32 => "Date32"
  | date64 => "Date64"
  | timestamp unit none => s!"Timestamp({unit.name}, None)"
  | timestamp unit (some zone) =>
    s!"Timestamp({unit.name}, Some(\"" ++ String.ofList (escapeZone zone.toList) ++ "\"))"
  | other name => name

instance : ToString Storage := ⟨name⟩

/-- The formats whose names have no parameters. -/
def plain : List Storage := [int64, float32, float64, boolean, utf8, largeUtf8, date32, date64]

/-- A timestamp format from the text between the parentheses of its name. -/
def timestampOfName? (text : List Char) : Option Storage :=
  TimeUnit.all.findSome? fun unit => do
    let zone ← Text.dropFirst? (unit.name ++ ", ").toList text
    if zone = "None".toList then return timestamp unit none
    let quoted ← Text.dropFirst? "Some(\"".toList zone
    let label ← unescapeZone? (← Text.dropLast? "\")".toList quoted)
    return timestamp unit (some (String.ofList label))

/-- The format with the given name. -/
def ofName (name : String) : Storage :=
  let timestamp? := do
    let parameters ← Text.dropFirst? "Timestamp(".toList name.toList
    timestampOfName? (← Text.dropLast? ")".toList parameters)
  ((plain.find? (·.name == name)).or timestamp?).getD (other name)

end Storage

/-! ### Logical types of formats -/

namespace LogicalType

/-- The canonical format of the type. -/
def storage : LogicalType → Storage
  | int64 => .int64
  | float32 => .float32
  | float64 => .float64
  | bool => .boolean
  | string => .utf8
  | date => .date32
  | timestamp => .timestamp .microsecond none

end LogicalType

namespace Storage

/-- The logical type whose values the format can hold. -/
def logical? : Storage → Option LogicalType
  | int64 => some .int64
  | float32 => some .float32
  | float64 => some .float64
  | boolean => some .bool
  | utf8 | largeUtf8 => some .string
  | date32 | date64 => some .date
  | timestamp .. => some .timestamp
  | other _ => none

theorem logical?_storage (t : LogicalType) : t.storage.logical? = some t := by cases t <;> rfl

end Storage

end ColumnDispatch
