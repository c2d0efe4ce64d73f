import ColumnDispatch.Ieee.Arithmetic
import ColumnDispatch.Ieee.Order

/-! The total order of floating-point numbers, by what the numbers stand for. Numbers that differ in
value are in the order of their values, and -0 stands before 0. A negative NaN stands before all
that is not a NaN, and a positive one behind it; NaNs of one sign are in the order of their
fractions, or in its reverse if they are negative. Main statement: `Number.compare_eq_lt_iff`. -/

namespace ColumnDispatch.Ieee.Number

variable {f : Format} {x y : Number f}

/-! ### The order -/

/-- The fraction field. In a NaN its leading bit tells a quiet NaN, and the rest is the payload. -/
def fraction (x : Number f) : Nat := x.magnitude % 2 ^ f.fractionBits

/-- Whether the value is less; a NaN is not less than anything, and nothing is less than it. -/
def Less (x y : Number f) : Prop :=
  match x.read, y.read with
  | .nan, _ | _, .nan => False
  | .infinite s, .infinite t => s = true ∧ t = false
  | .infinite s, .finite .. => s = true
  | .finite .., .infinite t => t = false
  | .finite s m e, .finite t n d => scaleTo f.minExponent s m e < scaleTo f.minExponent t n d

/-- Whether `x` stands before `y` in the total order. -/
inductive Before (x y : Number f) : Prop
  | values (h : x.Less y)
  | zeros (hx : x.isZero) (hy : y.isZero) (hneg : x.isNegative) (hpos : ¬y.isNegative)
  | negativeNaN (hx : x.isNaN) (hneg : x.isNegative) (hy : ¬y.isNaN)
  | positiveNaN (hx : ¬x.isNaN) (hy : y.isNaN) (hpos : ¬y.isNegative)
  | signs (hx : x.isNaN) (hy : y.isNaN) (hneg : x.isNegative) (hpos : ¬y.isNegative)
  | positiveFractions (hx : x.isNaN) (hy : y.isNaN) (hxpos : ¬x.isNegative) (hypos : ¬y.isNegative)
      (h : x.fraction < y.fraction)
  | negativeFractions (hx : x.isNaN) (hy : y.isNaN) (hxneg : x.isNegative) (hyneg : y.isNegative)
      (h : y.fraction < x.fraction)

/-! ### Magnitudes -/

/-- The value of a magnitude, in units of the last place of the numbers closest to zero. -/
def units (f : Format) (magnitude : Nat) : Nat :=
  if magnitude / 2 ^ f.fractionBits = 0 then magnitude % 2 ^ f.fractionBits
  else (2 ^ f.fractionBits + magnitude % 2 ^ f.fractionBits) *
    2 ^ (magnitude / 2 ^ f.fractionBits - 1)

theorem units_of_fields {exponent fraction : Nat} (h : fraction < 2 ^ f.fractionBits) :
    units f (exponent * 2 ^ f.fractionBits + fraction) =
      if exponent = 0 then fraction else (2 ^ f.fractionBits + fraction) * 2 ^ (exponent - 1) := by
  have hdiv : (exponent * 2 ^ f.fractionBits + fraction) / 2 ^ f.fractionBits = exponent := by
    rw [Nat.mul_comm, Nat.mul_add_div (Nat.two_pow_pos _), Nat.div_eq_of_lt h, Nat.add_zero]
  have hmod : (exponent * 2 ^ f.fractionBits + fraction) % 2 ^ f.fractionBits = fraction := by
    rw [Nat.mul_add_mod_self_right, Nat.mod_eq_of_lt h]
  simp only [units, hdiv, hmod]

/-- The next magnitude is one unit in the last place further from zero. -/
theorem units_succ (m : Nat) :
    units f (m + 1) = units f m + 2 ^ (m / 2 ^ f.fractionBits - 1) := by
  obtain ⟨e, r, hr, rfl, hdiv⟩ : ∃ e r, r < 2 ^ f.fractionBits ∧
      m = e * 2 ^ f.fractionBits + r ∧ m / 2 ^ f.fractionBits = e :=
    ⟨_, _, Nat.mod_lt m (Nat.two_pow_pos f.fractionBits), (Nat.div_add_mod' m _).symm, rfl⟩
  rw [hdiv, units_of_fields hr]
  by_cases hroom : r + 1 < 2 ^ f.fractionBits
  · rw [Nat.add_assoc, units_of_fields hroom]
    split
    · rename_i hzero
      rw [hzero, Nat.zero_sub, Nat.pow_zero]
    · rw [← Nat.add_assoc, Nat.add_mul, Nat.one_mul]
  · -- the fraction is full and carries into the exponent
    have hfull : 2 ^ f.fractionBits = r + 1 := Nat.le_antisymm (Nat.le_of_not_lt hroom) hr
    have hcarry : e * 2 ^ f.fractionBits + r + 1 = (e + 1) * 2 ^ f.fractionBits + 0 := by
      rw [Nat.add_mul, Nat.one_mul, Nat.add_assoc, ← hfull, Nat.add_zero]
    rw [hcarry, units_of_fields (Nat.two_pow_pos _), if_neg (Nat.succ_ne_zero e), hfull]
    cases e with
    | zero => simp
    | succ e =>
      simp only [Nat.succ_ne_zero, if_false, Nat.add_sub_cancel, Nat.add_zero, Nat.pow_succ]
      grind

theorem units_lt_units {m n : Nat} (h : m < n) : units f m < units f n := by
  induction h with
  | refl =>
    rw [units_succ]
    exact Nat.lt_add_of_pos_right (Nat.two_pow_pos _)
  | step _ ih =>
    rw [units_succ]
    exact Nat.lt_add_right _ ih

theorem units_lt_units_iff {m n : Nat} : units f m < units f n ↔ m < n := by
  refine ⟨fun h => ?_, units_lt_units⟩
  rcases Nat.lt_trichotomy m n with hlt | rfl | hgt
  · exact hlt
  · exact absurd h (Nat.lt_irrefl _)
  · exact absurd h (Nat.lt_asymm (units_lt_units hgt))

@[simp] theorem units_zero : units f 0 = 0 := by simp [units]

theorem units_pos_iff {m : Nat} : 0 < units f m ↔ 0 < m := by
  simpa using units_lt_units_iff (f := f) (m := 0) (n := m)

theorem magnitude_lt (x : Number f) : x.magnitude < 2 ^ f.magnitudeBits :=
  Nat.mod_lt _ (Nat.two_pow_pos f.magnitudeBits)

theorem isNaN_iff : x.isNaN ↔ f.infinity < x.magnitude := by simp [isNaN]

/-- A NaN has all bits of the exponent set. -/
theorem magnitude_of_isNaN (h : x.isNaN) : x.magnitude = f.infinity + x.fraction := by
  have hpos : 0 < 2 ^ f.fractionBits := Nat.two_pow_pos f.fractionBits
  have hupper : x.magnitude / 2 ^ f.fractionBits < 2 ^ f.exponentBits := by
    rw [Nat.div_lt_iff_lt_mul hpos, ← Nat.pow_add]
    exact x.magnitude_lt
  have hlower : 2 ^ f.exponentBits - 1 ≤ x.magnitude / 2 ^ f.fractionBits := by
    rw [Nat.le_div_iff_mul_le hpos, ← Nat.shiftLeft_eq]
    exact Nat.le_of_lt (isNaN_iff.1 h)
  have hexponent : x.magnitude / 2 ^ f.fractionBits = 2 ^ f.exponentBits - 1 := by omega
  have hparts := Nat.div_add_mod x.magnitude (2 ^ f.fractionBits)
  rw [hexponent, Nat.mul_comm, ← Nat.shiftLeft_eq] at hparts
  exact hparts.symm

/-! ### Values -/

/-- The value in the units of `units`, of a number that is not a NaN. -/
def signedUnits (x : Number f) : Int :=
  if x.isNegative then -units f x.magnitude else units f x.magnitude

/-- What a finite magnitude stands for. -/
theorem read_of_lt (h : x.magnitude < f.infinity) : ∃ significand exponent,
    x.read = .finite x.isNegative significand exponent ∧
      scaleTo f.minExponent x.isNegative significand exponent = x.signedUnits := by
  have hnan : ¬f.infinity < x.magnitude := Nat.lt_asymm h
  have hinfinite : x.magnitude ≠ f.infinity := Nat.ne_of_lt h
  simp only [read, hnan, hinfinite, if_false, Nat.shiftRight_eq_div_pow]
  split
  · rename_i hzero
    refine ⟨_, _, rfl, ?_⟩
    simp [scaleTo, signedUnits, units, hzero]
  · rename_i hexponent
    refine ⟨_, _, rfl, ?_⟩
    have hscale : (f.minExponent + (x.magnitude / 2 ^ f.fractionBits : Nat) - 1 -
        f.minExponent).toNat = x.magnitude / 2 ^ f.fractionBits - 1 := by omega
    simp only [scaleTo, hscale, signedUnits, units, if_neg hexponent, Nat.shiftLeft_eq]

theorem read_of_eq (h : x.magnitude = f.infinity) : x.read = .infinite x.isNegative := by
  simp [read, h]

theorem signedUnits_of_eq (h : x.magnitude = f.infinity) :
    x.signedUnits =
      if x.isNegative then -(units f f.infinity : Int) else units f f.infinity := by
  rw [signedUnits, h]

theorem signedUnits_of_lt (h : x.magnitude < f.infinity) :
    -(units f f.infinity : Int) < x.signedUnits ∧ x.signedUnits < units f f.infinity := by
  have hunits : units f x.magnitude < units f f.infinity := units_lt_units h
  unfold signedUnits
  split <;> omega

theorem less_iff_signedUnits_lt (hf : 0 < f.infinity) (hx : ¬x.isNaN) (hy : ¬y.isNaN) :
    x.Less y ↔ x.signedUnits < y.signedUnits := by
  have hinf : 0 < units f f.infinity := units_pos_iff.2 hf
  rw [isNaN_iff, Nat.not_lt] at hx hy
  rcases Nat.lt_or_eq_of_le hx with hx | hx <;> rcases Nat.lt_or_eq_of_le hy with hy | hy
  · obtain ⟨m, e, hxread, hxunits⟩ := read_of_lt hx
    obtain ⟨n, d, hyread, hyunits⟩ := read_of_lt hy
    simp only [Less, hxread, hyread, hxunits, hyunits]
  · obtain ⟨m, e, hxread, -⟩ := read_of_lt hx
    have hbetween := signedUnits_of_lt hx
    simp only [Less, hxread, read_of_eq hy, signedUnits_of_eq hy]
    cases y.isNegative <;> simp <;> omega
  · obtain ⟨n, d, hyread, -⟩ := read_of_lt hy
    have hbetween := signedUnits_of_lt hy
    simp only [Less, hyread, read_of_eq hx, signedUnits_of_eq hx]
    cases x.isNegative <;> simp <;> omega
  · simp only [Less, read_of_eq hx, read_of_eq hy, signedUnits_of_eq hx, signedUnits_of_eq hy]
    cases x.isNegative <;> cases y.isNegative <;> simp
    omega

/-! ### Places in the order -/

/-- Numbers of the same magnitude and both signs apart, the places are in the order of the units. -/
theorem key_lt_iff : x.key < y.key ↔ x.signedUnits < y.signedUnits ∨
    (x.isZero ∧ y.isZero ∧ x.isNegative ∧ ¬y.isNegative) := by
  have hlt := units_lt_units_iff (f := f) (m := x.magnitude) (n := y.magnitude)
  have hgt := units_lt_units_iff (f := f) (m := y.magnitude) (n := x.magnitude)
  have hxpos := units_pos_iff (f := f) (m := x.magnitude)
  have hypos := units_pos_iff (f := f) (m := y.magnitude)
  simp only [key, signedUnits, isZero, decide_eq_true_eq]
  cases x.isNegative <;> cases y.isNegative <;> simp <;> omega

theorem magnitude_lt_of_isNaN (hx : ¬x.isNaN) (hy : y.isNaN) : x.magnitude < y.magnitude := by
  rw [isNaN_iff] at hx hy
  omega

theorem key_lt_iff_of_isNaN_left (hx : x.isNaN) (hy : ¬y.isNaN) :
    x.key < y.key ↔ x.isNegative := by
  have hlt := magnitude_lt_of_isNaN hy hx
  unfold key
  cases x.isNegative <;> cases y.isNegative <;> simp <;> omega

theorem key_lt_iff_of_isNaN_right (hx : ¬x.isNaN) (hy : y.isNaN) :
    x.key < y.key ↔ ¬y.isNegative := by
  have hlt := magnitude_lt_of_isNaN hx hy
  unfold key
  cases x.isNegative <;> cases y.isNegative <;> simp <;> omega

theorem key_lt_iff_of_isNaN (hx : x.isNaN) (hy : y.isNaN) :
    x.key < y.key ↔ (x.isNegative ∧ ¬y.isNegative) ∨
      (¬x.isNegative ∧ ¬y.isNegative ∧ x.fraction < y.fraction) ∨
      (x.isNegative ∧ y.isNegative ∧ y.fraction < x.fraction) := by
  unfold key
  rw [magnitude_of_isNaN hx, magnitude_of_isNaN hy]
  cases x.isNegative <;> cases y.isNegative <;> simp <;> omega

theorem not_isNaN_of_less (h : x.Less y) : ¬x.isNaN ∧ ¬y.isNaN := by
  unfold Less read at h
  grind [isNaN_iff]

theorem not_isNaN_of_isZero (h : x.isZero) : ¬x.isNaN := by
  simp_all [isZero, isNaN]

theorem key_lt_iff_before (hf : 0 < f.infinity) : x.key < y.key ↔ x.Before y := by
  by_cases hx : x.isNaN <;> by_cases hy : y.isNaN
  · rw [key_lt_iff_of_isNaN hx hy]
    constructor
    · rintro (⟨hneg, hpos⟩ | ⟨hxpos, hypos, h⟩ | ⟨hxneg, hyneg, h⟩)
      · exact .signs hx hy hneg hpos
      · exact .positiveFractions hx hy hxpos hypos h
      · exact .negativeFractions hx hy hxneg hyneg h
    · intro h
      cases h with
      | values h => exact absurd hx (not_isNaN_of_less h).1
      | zeros hzero => exact absurd hx (not_isNaN_of_isZero hzero)
      | _ => grind
  · rw [key_lt_iff_of_isNaN_left hx hy]
    refine ⟨fun hneg => .negativeNaN hx hneg hy, fun h => ?_⟩
    cases h with
    | values h => exact absurd hx (not_isNaN_of_less h).1
    | zeros hzero => exact absurd hx (not_isNaN_of_isZero hzero)
    | negativeNaN _ hneg => exact hneg
    | _ => contradiction
  · rw [key_lt_iff_of_isNaN_right hx hy]
    refine ⟨fun hpos => .positiveNaN hx hy hpos, fun h => ?_⟩
    cases h with
    | values h => exact absurd hy (not_isNaN_of_less h).2
    | zeros _ hzero => exact absurd hy (not_isNaN_of_isZero hzero)
    | positiveNaN _ _ hpos => exact hpos
    | _ => contradiction
  · rw [key_lt_iff, ← less_iff_signedUnits_lt hf hx hy]
    constructor
    · rintro (h | ⟨hxzero, hyzero, hneg, hpos⟩)
      · exact .values h
      · exact .zeros hxzero hyzero hneg hpos
    · intro h
      cases h with
      | values h => exact .inl h
      | zeros hxzero hyzero hneg hpos => exact .inr ⟨hxzero, hyzero, hneg, hpos⟩
      | _ => contradiction

/-- The comparison of two numbers is the total order of IEEE 754. -/
theorem compare_eq_lt_iff (hf : 0 < f.infinity) : compare x y = .lt ↔ x.Before y := by
  rw [← key_lt_iff_before hf]
  exact Int.compare_eq_lt

end ColumnDispatch.Ieee.Number
