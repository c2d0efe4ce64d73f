import ColumnDispatch.Proofs.Kernels.BuiltinCalls

/-! Arithmetic on 64-bit integers. An operation has a rule: which rows it computes, their results as
integers, and the failure of a row that it does not compute. A call computes all rows by the rule of
its operator, or fails as the first row that has no result; nothing is ever cut to 64 bits. Main
statement: `Registry.integers_never_wrap`. -/

namespace ColumnDispatch

open Kernel

/-- A batch of integers. -/
def Batch.ofIntegers (cells : List (Option Int64)) : Batch := .ofCells .int64 cells

namespace Checked

theorem fits_neg_iff (w : Int64) : Fits (-w.toInt) ↔ w.toInt ≠ -2 ^ 63 := by
  have := fits_toInt w
  unfold Fits at *
  omega

theorem fits_natAbs_iff (w : Int64) : Fits w.toInt.natAbs ↔ w.toInt ≠ -2 ^ 63 := by
  have := fits_toInt w
  unfold Fits at *
  omega

/-- Only the quotient of the least word by -1 is out of range. -/
theorem fits_tdiv_iff {a b : Int64} (hb : b ≠ 0) :
    Fits (a.toInt.tdiv b.toInt) ↔ ¬(a.toInt = -2 ^ 63 ∧ b.toInt = -1) := by
  have ha := fits_toInt a
  have hb : b.toInt ≠ 0 := fun h => hb (Int64.toInt_inj.1 h)
  rcases Classical.em (b.toInt = -1) with hminus | hminus
  · rw [hminus, Int.tdiv_neg, Int.tdiv_one, fits_neg_iff]
    simp
  refine iff_of_true ?_ fun h => hminus h.2
  rcases Classical.em (b.toInt = 1) with hone | hone
  · rwa [hone, Int.tdiv_one]
  · -- any other divisor at least halves the magnitude
    have hquotient : (a.toInt.tdiv b.toInt).natAbs ≤ a.toInt.natAbs / 2 := by
      rw [Int.natAbs_tdiv]
      exact Nat.div_le_div_left (by omega) (by decide)
    unfold Fits at *
    omega

theorem fits_tmod {a b : Int64} (hb : b ≠ 0) : Fits (a.toInt.tmod b.toInt) := by
  have hb : b.toInt ≠ 0 := fun h => hb (Int64.toInt_inj.1 h)
  have hbound := fits_toInt b
  have hrest : (a.toInt.tmod b.toInt).natAbs < b.toInt.natAbs := by
    rw [Int.natAbs_tmod]
    exact Nat.mod_lt _ (by omega)
  unfold Fits at *
  omega

end Checked

open Checked

namespace Kernel

/-! ### Rules -/

/-- What becomes of a row of values. -/
structure RowRule (Row : Type) where
  Computes : Row → Prop
  value : Row → Int
  failure : Row → Failure

namespace RowRule

variable {Row : Type} {rule : RowRule Row} {f : Row → Except Failure Int64}

/-- The function computes single rows by the rule. -/
structure Governs (rule : RowRule Row) (f : Row → Except Failure Int64) : Prop where
  computed : ∀ r, rule.Computes r → ∃ w, f r = .ok w ∧ w.toInt = rule.value r
  failed : ∀ r, ¬rule.Computes r → f r = .error (rule.failure r)

/-- The outcome on some rows is as the rule has it: all results, or the failure of the first row
that has none. Null rows are null and do not fail. -/
structure Decides (rule : RowRule Row) (rows : List (Option Row)) (outcome : Except Failure Batch) :
    Prop where
  succeeds_iff : (∃ v, outcome = .ok v) ↔ ∀ (i : Nat) r, rows[i]? = some (some r) → rule.Computes r
  result : ∀ v, outcome = .ok v → ∃ cells, v = .ofIntegers cells ∧ cells.length = rows.length ∧
    ∀ i : Nat, (∀ r, rows[i]? = some (some r) →
        ∃ w, cells[i]? = some (some w) ∧ w.toInt = rule.value r) ∧
      (rows[i]? = some none → cells[i]? = some none)
  failure : ∀ failure, outcome = .error failure → ∃ (i : Nat) (r : Row),
    rows[i]? = some (some r) ∧ ¬rule.Computes r ∧ failure = rule.failure r ∧
      ∀ j < i, ∀ r', rows[j]? = some (some r') → rule.Computes r'

theorem Governs.exists_ok_iff (h : rule.Governs f) {r : Row} :
    (∃ w, f r = .ok w) ↔ rule.Computes r := by
  refine ⟨fun ⟨w, hw⟩ => Classical.not_not.1 fun hr => ?_, fun hr => ?_⟩
  · rw [h.failed r hr] at hw
    cases hw
  · obtain ⟨w, hw, -⟩ := h.computed r hr
    exact ⟨w, hw⟩

theorem exists_onPresent_ok_iff {x : Option Row} :
    (∃ y, onPresent f x = .ok y) ↔ ∀ r, x = some r → ∃ w, f r = .ok w := by
  cases x with
  | none => simp [onPresent]
  | some r => simp [onPresent, exists_except_map_ok_iff]

/-- Running a function down the rows keeps to the rule that governs it. -/
theorem Governs.decides (h : rule.Governs f) (rows : List (Option Row)) :
    rule.Decides rows ((eachRow (onPresent f) rows).map .ofIntegers) where
  succeeds_iff := by
    rw [exists_except_map_ok_iff, exists_eachRow_ok_iff]
    simp only [exists_onPresent_ok_iff, h.exists_ok_iff, List.mem_iff_getElem?]
    exact ⟨fun hall i r hr => hall (some r) ⟨i, hr⟩ r rfl, fun hall x ⟨i, hi⟩ r hr =>
      hall i r (hr ▸ hi)⟩
  result v hv := by
    obtain ⟨cells, hcells, rfl⟩ := except_map_eq_ok_iff.1 hv
    refine ⟨cells, rfl, length_of_eachRow hcells, fun i => ⟨fun r hr => ?_, fun hnull => ?_⟩⟩
    · have hi := getElem?_of_eachRow hcells i
      rw [hr, Option.map_some] at hi
      obtain ⟨y, hy, hrow⟩ := Option.map_eq_some_iff.1 hi.symm
      obtain ⟨w, hw, rfl⟩ := except_map_eq_ok_iff.1 hrow.symm
      have hr := h.exists_ok_iff.1 ⟨w, hw⟩
      obtain ⟨w', hw', hvalue⟩ := h.computed r hr
      obtain rfl : w = w' := Except.ok.inj (hw.symm.trans hw')
      exact ⟨w, hy, hvalue⟩
    · have hi := getElem?_of_eachRow hcells i
      rw [hnull, Option.map_some] at hi
      obtain ⟨y, hy, hrow⟩ := Option.map_eq_some_iff.1 hi.symm
      rw [hy, Except.ok.inj hrow]
  failure failure hfailure := by
    obtain ⟨i, x, hi, hx, hbefore⟩ := exists_first_failure (except_map_eq_error_iff.1 hfailure)
    cases x with
    | none => cases hx
    | some r =>
      have hr : f r = .error failure := except_map_eq_error_iff.1 hx
      have hnot : ¬rule.Computes r := fun hcomputes => by
        obtain ⟨w, hw, -⟩ := h.computed r hcomputes
        simp [hr] at hw
      refine ⟨i, r, hi, hnot, Except.error.inj (hr.symm.trans (h.failed r hnot)),
        fun j hj r' hr' => ?_⟩
      exact h.exists_ok_iff.1 (exists_onPresent_ok_iff.1 (hbefore j hj (some r') hr') r' rfl)

end RowRule

/-! ### Rules of the operators -/

/-- The result of an operation on integers of any size. -/
def Arithmetic.exact : Arithmetic → Int → Int → Int
  | plus => (· + ·)
  | minus => (· - ·)
  | times => (· * ·)
  | divide => Int.tdiv
  | modulo => Int.tmod

/-- Sums, differences and products are computed if they fit; quotients and remainders unless the
divisor is zero or the quotient is that of the least integer by -1. -/
def Arithmetic.rule (op : Arithmetic) : RowRule (Int64 × Int64) where
  Computes r := match op with
    | plus | minus | times => Fits (op.exact r.1.toInt r.2.toInt)
    | divide | modulo => ¬(r.2.toInt = 0 ∨ (r.1.toInt = -2 ^ 63 ∧ r.2.toInt = -1))
  value r := op.exact r.1.toInt r.2.toInt
  failure r := match op with
    | plus | minus | times => overflow s!"{r.1.toInt} {op.symbol} {r.2.toInt}"
    | divide | modulo => if r.2.toInt = 0 then .compute .divideByZero
      else overflow s!"{r.1.toInt} {op.symbol} {r.2.toInt}"

/-- A negative or a magnitude; only the least integer has none. -/
def signRule (value : Int → Int) (text : Int → String) : RowRule Int64 where
  Computes a := a.toInt ≠ -2 ^ 63
  value a := value a.toInt
  failure a := overflow (text a.toInt)

theorem exists_fitted_ok {text : String} {exact : Int} (h : Fits exact) :
    ∃ w, fitted text exact = .ok w ∧ w.toInt = exact := by
  obtain ⟨w, rfl⟩ := fits_iff_exists.1 h
  refine ⟨w, ?_, rfl⟩
  rw [fitted, int64?_eq_some_iff.2 rfl]

theorem fitted_of_not_fits {text : String} {exact : Int} (h : ¬Fits exact) :
    fitted text exact = .error (overflow text) := by
  have hnone : int64? exact = none := by
    rw [int64?_eq_none_iff]
    unfold Fits at h
    omega
  rw [fitted, hnone]

theorem governs_signRule {value : Int → Int} {text : Int → String}
    (h : ∀ w : Int64, Fits (value w.toInt) ↔ w.toInt ≠ -2 ^ 63) :
    (signRule value text).Governs fun a => fitted (text a.toInt) (value a.toInt) where
  computed a ha := exists_fitted_ok ((h a).2 ha)
  failed a ha := fitted_of_not_fits fun hfits => ha ((h a).1 hfits)

theorem toInt_eq_zero_iff {b : Int64} : b.toInt = 0 ↔ b = 0 := Int64.toInt_inj (y := 0)

/-- A row of a division that is computed has a quotient. -/
theorem exists_quotient {text : String} {a b : Int64}
    (h : ¬(b.toInt = 0 ∨ (a.toInt = -2 ^ 63 ∧ b.toInt = -1))) :
    ∃ w, (if b = 0 then .error (.compute .divideByZero) else fitted text (a.toInt.tdiv b.toInt)) =
      .ok w ∧ w.toInt = a.toInt.tdiv b.toInt := by
  rw [toInt_eq_zero_iff, not_or] at h
  rw [if_neg h.1]
  exact exists_fitted_ok ((fits_tdiv_iff h.1).2 h.2)

theorem quotient_of_not {text : String} {a b : Int64}
    (h : ¬¬(b.toInt = 0 ∨ (a.toInt = -2 ^ 63 ∧ b.toInt = -1))) :
    (if b = 0 then .error (.compute .divideByZero) else fitted text (a.toInt.tdiv b.toInt)) =
      .error (if b.toInt = 0 then .compute .divideByZero else overflow text) := by
  simp only [toInt_eq_zero_iff, Classical.not_not] at h ⊢
  split
  · rfl
  · rename_i hb
    exact fitted_of_not_fits fun hfits => (fits_tdiv_iff hb).1 hfits (h.resolve_left hb)

theorem Arithmetic.governs_rule (op : Arithmetic) :
    op.rule.Governs fun r => op.onInt64 r.1 r.2 where
  computed r hr := by
    cases op with
    | plus | minus | times => exact exists_fitted_ok hr
    | divide => exact exists_quotient hr
    | modulo =>
      obtain ⟨w, hw, -⟩ := exists_quotient hr
      have hb : r.2 ≠ 0 := fun hb => hr (.inl (toInt_eq_zero_iff.2 hb))
      refine ⟨_, except_map_eq_ok_iff.2 ⟨w, hw, rfl⟩, ?_⟩
      exact toInt_ofInt (fits_tmod hb).1 (fits_tmod hb).2
  failed r hr := by
    cases op with
    | plus | minus | times => exact fitted_of_not_fits hr
    | divide => exact quotient_of_not hr
    | modulo => exact except_map_eq_error_iff.2 (quotient_of_not hr)

end Kernel

namespace Registry

variable {xs ys : List (Option Int64)}

theorem mem_builtin_arithmetic (op : Arithmetic) :
    Builtin.binary op.operator .int64 .int64 .int64 op.kernel ∈ Builtin.all := by
  have hop : op ∈ Arithmetic.all := by cases op <;> decide
  have hmem : Builtin.binary op.operator .int64 .int64 .int64 op.kernel ∈ Builtin.arithmetic :=
    List.mem_append_left _ <| List.mem_flatMap.2
      ⟨.int64, List.mem_cons_self, List.mem_cons_of_mem _ (List.mem_map_of_mem hop)⟩
  simp [Builtin.all, hmem]

theorem invoke_arithmetic (h : xs.length = ys.length) {op : Arithmetic} {operator : BinaryOperator}
    (ho : Builtin.binary operator .int64 .int64 .int64 op.kernel ∈ Builtin.all) :
    (builtin.invoke (.binary operator (.ofIntegers xs) (.ofIntegers ys))).result =
      (eachRow (onPresent fun r => op.onInt64 r.1 r.2) (pairs xs ys)).map .ofIntegers :=
  (invoke_binaryForm ho op.integerForm h).trans
    (congrArg (Except.map Batch.ofIntegers) (eachPair_onBothPresent op.onInt64 xs ys))

theorem decides_arithmetic (h : xs.length = ys.length) (op : Arithmetic) :
    op.rule.Decides (pairs xs ys)
      (builtin.invoke (.binary op.operator (.ofIntegers xs) (.ofIntegers ys))).result := by
  rw [invoke_arithmetic h (mem_builtin_arithmetic op)]
  exact op.governs_rule.decides (pairs xs ys)

theorem invoke_integerDivide (h : xs.length = ys.length) :
    (builtin.invoke (.binary .integerDivide (.ofIntegers xs) (.ofIntegers ys))).result =
      (builtin.invoke (.binary .divide (.ofIntegers xs) (.ofIntegers ys))).result := by
  have ho : Builtin.binary .integerDivide .int64 .int64 .int64 Arithmetic.divide.kernel ∈
      Builtin.all := by
    simp [Builtin.all, Builtin.arithmetic]
  exact (invoke_arithmetic h ho).trans (invoke_arithmetic h (mem_builtin_arithmetic .divide)).symm

theorem decides_sign {op : UnaryOperator} {kernel : UnaryKernel} {f : Int64 → Except Failure Int64}
    {rule : RowRule Int64} (ho : Builtin.unary op .int64 .int64 kernel ∈ Builtin.all)
    (hkernel : kernel (.ofIntegers xs) = (eachRow (onPresent f) xs).map .ofIntegers)
    (hrule : rule.Governs f) :
    rule.Decides xs (builtin.invoke (.unary op (.ofIntegers xs))).result := by
  have htype (v : Batch) (hv : kernel (.ofIntegers xs) = .ok v) : v.type = .int64 := by
    obtain ⟨cells, -, rfl⟩ := except_map_eq_ok_iff.1 (hkernel.symm.trans hv)
    rfl
  exact ((invoke_unary ho htype).trans hkernel) ▸ hrule.decides xs

theorem decides_negate (xs : List (Option Int64)) :
    (signRule (- ·) fun i => s!"- {i}").Decides xs
      (builtin.invoke (.unary .negate (.ofIntegers xs))).result := by
  have ho : Builtin.unary .negate .int64 .int64 negate ∈ Builtin.all := by
    simp [Builtin.all, Builtin.arithmetic, Builtin.numericTypes]
  exact decides_sign ho (bind_ofColumn (t := .int64) _) (governs_signRule fits_neg_iff)

theorem decides_absolute (xs : List (Option Int64)) :
    (signRule (·.natAbs) fun i => s!"abs({i})").Decides xs
      (builtin.invoke (.unary .absolute (.ofIntegers xs))).result := by
  have ho : Builtin.unary .absolute .int64 .int64 absoluteIntegers ∈ Builtin.all := by
    simp [Builtin.all, Builtin.arithmetic]
  exact decides_sign ho (except_bind_ok _ _) (governs_signRule fits_natAbs_iff)

/-- Integer arithmetic is exact or fails. Quotients and remainders fail in the same rows, and belong
together. -/
theorem integers_never_wrap (xs ys : List (Option Int64)) (h : xs.length = ys.length) :
    let binary (op : BinaryOperator) :=
      (builtin.invoke (.binary op (.ofIntegers xs) (.ofIntegers ys))).result
    let unary (op : UnaryOperator) := (builtin.invoke (.unary op (.ofIntegers xs))).result
    (∀ op : Arithmetic, op.rule.Decides (pairs xs ys) (binary op.operator)) ∧
    (signRule (- ·) fun i => s!"- {i}").Decides xs (unary .negate) ∧
    (signRule (·.natAbs) fun i => s!"abs({i})").Decides xs (unary .absolute) ∧
    binary .integerDivide = binary .divide ∧
    ((∃ v, binary .divide = .ok v) ↔ ∃ v, binary .modulo = .ok v) ∧
    ∀ quotients rests, binary .integerDivide = .ok quotients → binary .modulo = .ok rests →
      ∃ qs rs, quotients = .ofIntegers qs ∧ rests = .ofIntegers rs ∧
        ∀ (i : Nat) a b, xs[i]? = some (some a) → ys[i]? = some (some b) →
          ∃ q r, qs[i]? = some (some q) ∧ rs[i]? = some (some r) ∧
            a.toInt = q.toInt * b.toInt + r.toInt ∧ r.toInt.natAbs < b.toInt.natAbs ∧
            (r.toInt = 0 ∨ r.toInt.sign = a.toInt.sign) := by
  intro binary unary
  have hdivide : Arithmetic.divide.rule.Decides (pairs xs ys) (binary .divide) :=
    decides_arithmetic h .divide
  have hmodulo : Arithmetic.modulo.rule.Decides (pairs xs ys) (binary .modulo) :=
    decides_arithmetic h .modulo
  refine ⟨decides_arithmetic h, decides_negate xs, decides_absolute xs, invoke_integerDivide h,
    hdivide.succeeds_iff.trans hmodulo.succeeds_iff.symm, fun quotients rests hq hr => ?_⟩
  obtain ⟨qs, rfl, -, hqs⟩ := hdivide.result quotients ((invoke_integerDivide h).symm.trans hq)
  obtain ⟨rs, rfl, -, hrs⟩ := hmodulo.result rests hr
  refine ⟨qs, rs, rfl, rfl, fun i a b ha hb => ?_⟩
  have hrow := getElem?_pairs_eq_some_iff.2 ⟨ha, hb⟩
  obtain ⟨q, hqi, hquotient⟩ := (hqs i).1 (a, b) hrow
  obtain ⟨r, hri, hrest⟩ := (hrs i).1 (a, b) hrow
  have hcomputes := hmodulo.succeeds_iff.1 ⟨_, hr⟩ i (a, b) hrow
  have hzero : b.toInt ≠ 0 := fun hzero => hcomputes (.inl hzero)
  refine ⟨q, r, hqi, hri, ?_, ?_, ?_⟩
  · rw [hquotient, hrest]
    exact (Int.mul_comm _ _ ▸ Int.mul_tdiv_add_tmod a.toInt b.toInt).symm
  · rw [hrest]
    exact Int.natAbs_tmod a.toInt b.toInt ▸ Nat.mod_lt _ (by omega)
  · rw [hrest]
    have hsign : (a.toInt.tmod b.toInt).sign = if b.toInt ∣ a.toInt then 0 else a.toInt.sign :=
      Int.sign_tmod a.toInt b.toInt
    split at hsign
    · exact .inl (Int.sign_eq_zero_iff_zero.1 hsign)
    · exact .inr hsign

/-- Seven by minus two, a null by zero, and the least integer by minus one: the last row alone keeps
the quotients and the remainders from being computed. -/
theorem integers_never_wrap_of_least :
    let left : List (Option Int64) := [some 7, none, some Int64.minValue]
    let right : List (Option Int64) := [some (-2), some 0, some (-1)]
    left.length = right.length ∧
      (¬∃ v, (builtin.invoke (.binary .modulo (.ofIntegers left) (.ofIntegers right))).result =
        .ok v) ∧
      ¬∃ v, (builtin.invoke (.unary .absolute (.ofIntegers left))).result = .ok v := by
  intro left right
  have hlength : left.length = right.length := rfl
  obtain ⟨hbinary, -, habsolute, -⟩ := integers_never_wrap left right hlength
  refine ⟨hlength, fun hok => ?_, fun hok => ?_⟩
  · have hrow : (pairs left right)[2]? = some (some (Int64.minValue, (-1 : Int64))) := rfl
    exact (hbinary .modulo).succeeds_iff.1 hok 2 _ hrow (.inr (by decide))
  · exact habsolute.succeeds_iff.1 hok 2 Int64.minValue rfl (by decide)

end Registry

end ColumnDispatch
