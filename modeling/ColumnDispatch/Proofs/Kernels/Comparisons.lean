import ColumnDispatch.Proofs.Cells.NumberOrder
import ColumnDispatch.Proofs.Cells.TextOrder
import ColumnDispatch.Proofs.Kernels.BuiltinCalls

/-! Comparison of batches. Each type has one total order of its values, and the six comparisons are
read off it. Batches of one length in one format can always be compared, and a row with a null is
null in all six results. Timestamps that still have a time zone are in the order of their numbers if
the operands share it, and are not compared otherwise. Main statement:
`Registry.comparisons_of_total_order`. -/

namespace ColumnDispatch

open Kernel

/-- A batch of truth values. -/
def Batch.ofTruths (cells : List (Option Bool)) : Batch := .ofCells .bool cells

/-! ### Orders of values -/

/-- Whether a value stands before another one of its type: numbers, days and instants by their
number, floating-point numbers in the total order of their bits, `false` before `true`, and texts by
their bytes. -/
def LogicalType.Before : (t : LogicalType) → t.storage.Cell → t.storage.Cell → Prop
  | .int64, (a : Int64), (b : Int64) => a.toInt < b.toInt
  | .float32, (a : Ieee.Binary32), (b : Ieee.Binary32) => a.Before b
  | .float64, (a : Ieee.Binary64), (b : Ieee.Binary64) => a.Before b
  | .bool, (a : Bool), (b : Bool) => a = false ∧ b = true
  | .string, (a : String), (b : String) => Utf8.bytes a < Utf8.bytes b
  | .date, (a : Int32), (b : Int32) => a.toInt < b.toInt
  | .timestamp, (a : Int64), (b : Int64) => a.toInt < b.toInt

theorem LogicalType.compareCells_eq_lt_iff {t : LogicalType} {a b : t.storage.Cell} :
    t.storage.compareCells a b = .lt ↔ t.Before a b := by
  cases t with
  | int64 | date | timestamp => exact Int.compare_eq_lt
  | float32 | float64 => exact Ieee.Number.compare_eq_lt_iff (by decide)
  | bool =>
    have hbool : ∀ a b : Bool, compare a.toNat b.toNat = .lt ↔ a = false ∧ b = true := by decide
    exact hbool a b
  | string => exact Utf8.compare_eq_lt_iff

instance {f : Ieee.Format} : Std.TransOrd (Ieee.Number f) :=
  inferInstanceAs (Std.TransCmp (compareOn Ieee.Number.key))

namespace Storage

instance transCmp_compareCells (s : Storage) : Std.TransCmp s.compareCells := by
  cases s with
  | int64 | date64 | timestamp => exact inferInstanceAs (Std.TransCmp (compareOn Int64.toInt))
  | date32 => exact inferInstanceAs (Std.TransCmp (compareOn Int32.toInt))
  | float32 | float64 => exact inferInstanceAs (Std.TransCmp (compareOn Ieee.Number.key))
  | boolean => exact inferInstanceAs (Std.TransCmp (compareOn Bool.toNat))
  | utf8 | largeUtf8 => exact inferInstanceAs (Std.TransOrd String)
  | other => exact { eq_swap := fun {a} => (nomatch a), isLE_trans := fun {a} => (nomatch a) }

theorem compareCells_eq_eq_iff {s : Storage} {a b : s.Cell} :
    s.compareCells a b = .eq ↔ a = b :=
  ⟨eq_of_compareCells_eq, fun h => h ▸ Std.ReflCmp.compare_self⟩

end Storage

/-! ### Rows -/

namespace Kernel.Comparison

/-- The answers of the six comparisons on two values: one of the three strict ones is true, by the
order of the values, and the others are made of them. -/
structure Decides (t : LogicalType) (a b : t.storage.Cell) (answer : Comparison → Bool) : Prop where
  exactlyOne : [answer less, answer equal, answer greater].count true = 1
  less_iff : answer less ↔ t.Before a b
  equal_iff : answer equal ↔ a = b
  greater_iff : answer greater ↔ t.Before b a
  lessEqual : answer lessEqual = (answer less || answer equal)
  greaterEqual : answer greaterEqual = (answer greater || answer equal)
  notEqual : answer notEqual = !answer equal

theorem decides (t : LogicalType) (a b : t.storage.Cell) :
    Decides t a b fun c => c.onCells t.storage a b where
  exactlyOne := by
    unfold onCells
    cases t.storage.compareCells a b <;> rfl
  less_iff := Ordering.isLT_iff_eq_lt.trans t.compareCells_eq_lt_iff
  equal_iff := Ordering.isEq_iff_eq_eq.trans Storage.compareCells_eq_eq_iff
  greater_iff := by
    have hswap : t.storage.compareCells a b = .gt ↔ t.storage.compareCells b a = .lt :=
      Std.OrientedCmp.gt_iff_lt
    exact Ordering.isGT_iff_eq_gt.trans (hswap.trans t.compareCells_eq_lt_iff)
  lessEqual := by
    unfold onCells
    cases t.storage.compareCells a b <;> rfl
  greaterEqual := by
    unfold onCells
    cases t.storage.compareCells a b <;> rfl
  notEqual := by
    unfold onCells
    cases t.storage.compareCells a b <;> rfl

theorem onCells_greater (s : Storage) (a b : s.Cell) :
    greater.onCells s a b = less.onCells s b a := by
  have hswap : s.compareCells a b = (s.compareCells b a).swap := Std.OrientedCmp.eq_swap
  unfold onCells
  rw [hswap]
  cases s.compareCells b a <;> rfl

theorem onCells_less_trans {s : Storage} {a b c : s.Cell} (hab : less.onCells s a b)
    (hbc : less.onCells s b c) : less.onCells s a c := by
  have hab : s.compareCells a b = .lt := Ordering.isLT_iff_eq_lt.1 hab
  have hbc : s.compareCells b c = .lt := Ordering.isLT_iff_eq_lt.1 hbc
  exact Ordering.isLT_iff_eq_lt.2 (Std.TransCmp.lt_trans hab hbc)

theorem kernel_ofTimestamps (c : Comparison) (zone : Option String)
    (left right : List (Option Int64)) :
    c.kernel (.ofTimestamps zone left) (.ofTimestamps zone right) =
      c.kernel (.ofTimestamps none left) (.ofTimestamps none right) := by
  have hcolumns (zone : Option String) :
      c.onColumns (Batch.ofTimestamps zone left).column (Batch.ofTimestamps zone right).column =
        ofSameLength left right (comparedLengths left.length right.length) (eachPair
          (onBothPresent fun a b => .ok (c.holds (compare a.toInt b.toInt))) left right) :=
    c.onColumns_same (.timestamp .microsecond zone) left right
  unfold kernel
  rw [hcolumns zone, hcolumns none]

/-- Timestamps of two time zones are held in two formats. -/
def acrossZones (c : Comparison) (zone zone' : Option String) : Failure :=
  invalidOperation "comparison " c.symbol (.timestamp .microsecond zone)
    (.timestamp .microsecond zone')

theorem kernel_of_zone_ne (c : Comparison) {zone zone' : Option String} (hzone : zone ≠ zone')
    {left right : List (Option Int64)} (h : left.length = right.length) :
    c.kernel (.ofTimestamps zone left) (.ofTimestamps zone' right) =
      .error (c.acrossZones zone zone') := by
  have hstorage : Storage.timestamp .microsecond zone' ≠ .timestamp .microsecond zone :=
    fun hsame => hzone (Storage.timestamp.inj hsame).2.symm
  have hcolumns : c.onColumns (Batch.ofTimestamps zone left).column
      (Batch.ofTimestamps zone' right).column = .error (c.acrossZones zone zone') :=
    (if_pos h).trans (dif_neg hstorage)
  rw [kernel, hcolumns]
  rfl

end Kernel.Comparison

/-! ### Outcomes -/

theorem Batch.ofTruths_injective {xs ys : List (Option Bool)} (h : ofTruths xs = ofTruths ys) :
    xs = ys := by
  cases h
  rfl

/-- The outcome is a batch of truth values with this one in row `i`. -/
def Answers (outcome : Except Failure Batch) (i : Nat) (answer : Option Bool) : Prop :=
  ∃ cells, outcome = .ok (.ofTruths cells) ∧ cells[i]? = some answer

namespace Registry

variable {t : LogicalType} {xs ys zs : List (Option t.storage.Cell)} {left right : Batch}

theorem mem_builtin_comparison (c : Comparison) (t : LogicalType) :
    Builtin.binary c.operator t t .bool c.kernel ∈ Builtin.all := by
  have hc : c ∈ Comparison.all := by cases c <;> decide
  have hmem : Builtin.binary c.operator t t .bool c.kernel ∈ Builtin.comparison :=
    List.mem_flatMap.2 ⟨t, t.mem_all, List.mem_map.2 ⟨c, hc, rfl⟩⟩
  simp [Builtin.all, hmem]

/-- A comparison of batches of one type has the outcome of its kernel. -/
theorem invoke_comparison (c : Comparison) (h : right.type = left.type) :
    (builtin.invoke (.binary c.operator left right)).result = c.kernel left right := by
  have htype (v : Batch) (hv : c.kernel left right = .ok v) : v.type = .bool := by
    unfold Comparison.kernel at hv
    cases hcells : c.onColumns left.column right.column with
    | error failure =>
      rw [hcells] at hv
      cases hv
    | ok cells =>
      rw [hcells] at hv
      cases hv
      rfl
  exact invoke_binary (h ▸ mem_builtin_comparison c left.type) htype

/-- Timestamps compare by their number, whatever time zone the operands share. -/
theorem invoke_ofTimestamps (c : Comparison) (zone : Option String)
    (left right : List (Option Int64)) :
    (builtin.invoke
      (.binary c.operator (.ofTimestamps zone left) (.ofTimestamps zone right))).result =
      (builtin.invoke
        (.binary c.operator (.ofTimestamps none left) (.ofTimestamps none right))).result := by
  have hinvoke (zone : Option String) : (builtin.invoke
      (.binary c.operator (.ofTimestamps zone left) (.ofTimestamps zone right))).result =
        c.kernel (.ofTimestamps zone left) (.ofTimestamps zone right) := invoke_comparison c rfl
  rw [hinvoke zone, hinvoke none, c.kernel_ofTimestamps]

theorem invoke_of_zone_ne (c : Comparison) {zone zone' : Option String} (hzone : zone ≠ zone')
    {left right : List (Option Int64)} (h : left.length = right.length) :
    (builtin.invoke
      (.binary c.operator (.ofTimestamps zone left) (.ofTimestamps zone' right))).result =
      .error (c.acrossZones zone zone') := by
  have htype : (Batch.ofTimestamps zone' right).type = (Batch.ofTimestamps zone left).type := rfl
  rw [invoke_comparison c htype, c.kernel_of_zone_ne hzone h]

theorem invoke_comparison_ofCells (c : Comparison) (h : xs.length = ys.length) :
    (builtin.invoke (.binary c.operator (.ofCells t xs) (.ofCells t ys))).result =
      .ok (.ofTruths ((pairs xs ys).map (·.map fun r => c.onCells t.storage r.1 r.2))) := by
  have hrows : eachPair (c.form t).row xs ys =
      .ok ((pairs xs ys).map (·.map fun r => c.onCells t.storage r.1 r.2)) :=
    (eachPair_onBothPresent _ xs ys).trans (eachRow_onPresent_ok _ _)
  have hinvoke := invoke_binaryForm (mem_builtin_comparison c t) (c.form t) h
  rw [hrows] at hinvoke
  exact hinvoke

/-- A comparison with the operands swapped. -/
theorem invoke_greater (h : xs.length = ys.length) :
    (builtin.invoke (.binary Comparison.greater.operator (.ofCells t xs) (.ofCells t ys))).result =
      (builtin.invoke
        (.binary Comparison.less.operator (.ofCells t ys) (.ofCells t xs))).result := by
  rw [invoke_comparison_ofCells .greater h, invoke_comparison_ofCells .less h.symm,
    pairs_swap xs ys, List.map_map]
  refine congrArg (Except.ok ∘ Batch.ofTruths) (List.map_congr_left fun row _ => ?_)
  cases row with
  | none => rfl
  | some r => exact congrArg some (Comparison.onCells_greater t.storage r.1 r.2)

theorem answers_comparison_iff (c : Comparison) (h : xs.length = ys.length) {i : Nat}
    {answer : Option Bool} :
    Answers (builtin.invoke (.binary c.operator (.ofCells t xs) (.ofCells t ys))).result i answer ↔
      ∃ r, (pairs xs ys)[i]? = some r ∧
        r.map (fun r => c.onCells t.storage r.1 r.2) = answer := by
  rw [invoke_comparison_ofCells c h]
  constructor
  · rintro ⟨cells, hcells, hi⟩
    obtain rfl := Batch.ofTruths_injective (Except.ok.inj hcells)
    rwa [List.getElem?_map, Option.map_eq_some_iff] at hi
  · intro hrow
    exact ⟨_, rfl, by rwa [List.getElem?_map, Option.map_eq_some_iff]⟩

/-- The six comparisons of canonical batches of one length: rows of values are decided by the order
of their type, and rows with a null are null. Timestamps with a time zone, the only other batches,
compare as those without one if they share it, and not at all otherwise. -/
theorem comparisons_of_total_order (t : LogicalType) (xs ys zs : List (Option t.storage.Cell))
    (hxy : xs.length = ys.length) (hyz : ys.length = zs.length) :
    let compared (c : Comparison) (left right : List (Option t.storage.Cell)) :=
      (builtin.invoke (.binary c.operator (.ofCells t left) (.ofCells t right))).result
    (∀ c, ∃ cells, compared c xs ys = .ok (.ofTruths cells) ∧ cells.length = xs.length) ∧
    (∀ i : Nat, xs[i]? = some none ∨ ys[i]? = some none →
      ∀ c, Answers (compared c xs ys) i none) ∧
    (∀ (i : Nat) a b, xs[i]? = some (some a) → ys[i]? = some (some b) → ∃ answer,
      Comparison.Decides t a b answer ∧ ∀ c, Answers (compared c xs ys) i (some (answer c))) ∧
    compared .greater xs ys = compared .less ys xs ∧
    (∀ i, Answers (compared .less xs ys) i (some true) →
      Answers (compared .less ys zs) i (some true) →
        Answers (compared .less xs zs) i (some true)) ∧
    (∀ zone (left right : List (Option Int64)) (c : Comparison),
      (builtin.invoke
        (.binary c.operator (.ofTimestamps zone left) (.ofTimestamps zone right))).result =
      (builtin.invoke
        (.binary c.operator (.ofTimestamps none left) (.ofTimestamps none right))).result) ∧
    ∀ zone zone' (left right : List (Option Int64)) (c : Comparison), zone ≠ zone' →
      left.length = right.length →
        (builtin.invoke
          (.binary c.operator (.ofTimestamps zone left) (.ofTimestamps zone' right))).result =
          .error (c.acrossZones zone zone') := by
  intro compared
  refine ⟨fun c => ⟨_, invoke_comparison_ofCells c hxy, ?_⟩, fun i hnull c => ?_,
    fun i a b ha hb => ?_, ?_, fun i hfirst hsecond => ?_, fun zone left right c => ?_,
    fun zone zone' left right c hzone h => ?_⟩
  · rw [List.length_map, length_pairs hxy]
  · have hrow := (getElem?_pairs_eq_none_iff hxy).2 hnull
    exact (answers_comparison_iff c hxy).2 ⟨none, hrow, rfl⟩
  · have hrow := getElem?_pairs_eq_some_iff.2 ⟨ha, hb⟩
    exact ⟨_, Comparison.decides t a b, fun c =>
      (answers_comparison_iff c hxy).2 ⟨some (a, b), hrow, rfl⟩⟩
  · exact invoke_greater hxy
  · obtain ⟨r, hr, hrless⟩ := (answers_comparison_iff .less hxy).1 hfirst
    obtain ⟨s, hs, hsless⟩ := (answers_comparison_iff .less hyz).1 hsecond
    obtain ⟨⟨a, b⟩, rfl, hab⟩ := Option.map_eq_some_iff.1 hrless
    obtain ⟨⟨b', c⟩, rfl, hbc⟩ := Option.map_eq_some_iff.1 hsless
    obtain ⟨ha, hb⟩ := getElem?_pairs_eq_some_iff.1 hr
    obtain ⟨hb', hc⟩ := getElem?_pairs_eq_some_iff.1 hs
    obtain rfl : b = b' := Option.some.inj (Option.some.inj (hb.symm.trans hb'))
    refine (answers_comparison_iff .less (hxy.trans hyz)).2
      ⟨some (a, c), getElem?_pairs_eq_some_iff.2 ⟨ha, hc⟩, ?_⟩
    exact congrArg some (Comparison.onCells_less_trans hab hbc)
  · exact invoke_ofTimestamps c zone left right
  · exact invoke_of_zone_ne c hzone h

/-- A zero of either sign, a NaN and a null: -0 is less than 0, and the NaN equals itself. -/
theorem comparisons_of_total_order_of_zeros :
    let left : List (Option Ieee.Binary64) := [some (.zero true), some .invalid, none]
    let right : List (Option Ieee.Binary64) :=
      [some (.zero false), some .invalid, some (.infinite true)]
    let compared (c : Comparison) := (builtin.invoke
      (.binary c.operator (.ofCells .float64 left) (.ofCells .float64 right))).result
    left.length = right.length ∧ Answers (compared .less) 0 (some true) ∧
      Answers (compared .equal) 0 (some false) ∧ Answers (compared .equal) 1 (some true) ∧
      Answers (compared .notEqual) 2 none := by
  intro left right compared
  have hlength : left.length = right.length := rfl
  obtain ⟨-, hnull, hvalues, -⟩ := comparisons_of_total_order .float64 left right right hlength rfl
  obtain ⟨zeros, hzeros, hzero⟩ := hvalues 0 (.zero true) (.zero false) rfl rfl
  obtain ⟨nans, hnans, hnan⟩ := hvalues 1 .invalid .invalid rfl rfl
  refine ⟨hlength, ?_, ?_, ?_, hnull 2 (.inl rfl) .notEqual⟩
  · have hless : zeros .less = true := hzeros.less_iff.2 (.zeros rfl rfl rfl (by decide))
    exact hless ▸ hzero .less
  · have hbits : (.zero true : Ieee.Binary64) ≠ .zero false := by decide
    have hequal : zeros .equal = false := Bool.eq_false_iff.2 fun h => hbits (hzeros.equal_iff.1 h)
    exact hequal ▸ hzero .equal
  · have hequal : nans .equal = true := hnans.equal_iff.2 rfl
    exact hequal ▸ hnan .equal

/-- An instant with a time zone and the same instant without one: none of the six comparisons has a
result. -/
theorem uncompared_across_zones :
    let zoned : Batch := .ofTimestamps (some "UTC") [some 0]
    let plain : Batch := .ofTimestamps none [some 0]
    zoned.type = plain.type ∧ zoned.length = plain.length ∧
      ∀ c : Comparison, (builtin.invoke (.binary c.operator zoned plain)).result =
        .error (c.acrossZones (some "UTC") none) :=
  ⟨rfl, rfl, fun c => invoke_of_zone_ne c (by decide) rfl⟩

end Registry

end ColumnDispatch
