/-! The logical types that select an overload. Every type has a fixed number, its place in
`LogicalType.all`, which orders signatures and is written by the codecs, and a name, which is what
messages show. -/

namespace ColumnDispatch

inductive LogicalType where
  | int64 | float32 | float64 | bool | string | date | timestamp
  deriving DecidableEq, Repr

namespace LogicalType

def all : List LogicalType := [int64, float32, float64, bool, string, date, timestamp]

theorem mem_all (t : LogicalType) : t ∈ all := by cases t <;> decide

theorem nodup_all : all.Nodup := by decide

/-- The place of the type in `all`. -/
def index : LogicalType → Nat
  | int64 => 0
  | float32 => 1
  | float64 => 2
  | bool => 3
  | string => 4
  | date => 5
  | timestamp => 6

theorem getElem?_index (t : LogicalType) : all[t.index]? = some t := by cases t <;> rfl

theorem index_injective {s t : LogicalType} (h : s.index = t.index) : s = t :=
  Option.some.inj ((getElem?_index s).symm.trans (h ▸ getElem?_index t))

instance : Ord LogicalType := ⟨fun s t => compare s.index t.index⟩

instance : Std.TransOrd LogicalType := inferInstanceAs (Std.TransCmp (compareOn index))

instance : Std.LawfulEqOrd LogicalType where
  eq_of_compare h := index_injective (Std.LawfulEqOrd.eq_of_compare h)

def name : LogicalType → String
  | int64 => "INT64"
  | float32 => "FLOAT32"
  | float64 => "FLOAT64"
  | bool => "BOOL"
  | string => "STRING"
  | date => "DATE"
  | timestamp => "TIMESTAMP"

instance : ToString LogicalType := ⟨name⟩

def ofName? (s : String) : Option LogicalType := all.find? (·.name == s)

theorem ofName?_name (t : LogicalType) : ofName? t.name = some t := by cases t <;> decide

theorem name_injective {s t : LogicalType} (h : s.name = t.name) : s = t :=
  Option.some.inj ((ofName?_name s).symm.trans (h ▸ ofName?_name t))

/-- The identifier that the codecs write. -/
def tag : LogicalType → String
  | int64 => "Int64"
  | float32 => "Float32"
  | float64 => "Float64"
  | bool => "Bool"
  | string => "String"
  | date => "Date"
  | timestamp => "Timestamp"

def isNumeric : LogicalType → Bool
  | int64 | float32 | float64 => true
  | _ => false

/-- The calendar types. -/
def isTemporal : LogicalType → Bool
  | date | timestamp => true
  | _ => false

end LogicalType

end ColumnDispatch
