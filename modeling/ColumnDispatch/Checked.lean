import ColumnDispatch.Power

/-! Integers that must fit a fixed width: the word that holds an integer, if there is one. -/

namespace ColumnDispatch.Checked

def int64? (i : Int) : Option Int64 :=
  if -2 ^ 63 ≤ i ∧ i < 2 ^ 63 then some (Int64.ofInt i) else none

def int32? (i : Int) : Option Int32 :=
  if -2 ^ 31 ≤ i ∧ i < 2 ^ 31 then some (Int32.ofInt i) else none

theorem toInt_ofInt {i : Int} (low : -2 ^ 63 ≤ i) (high : i < 2 ^ 63) : (Int64.ofInt i).toInt = i :=
  Int64.toInt_ofInt_of_le low high

theorem int64?_eq_some_iff {i : Int} {w : Int64} : int64? i = some w ↔ w.toInt = i := by
  unfold int64?
  constructor
  · split
    · rename_i h
      rintro ⟨⟩
      exact toInt_ofInt h.1 h.2
    · rintro ⟨⟩
  · rintro rfl
    rw [if_pos ⟨w.le_toInt, w.toInt_lt⟩, Int64.ofInt_toInt]

theorem int64?_eq_none_iff {i : Int} : int64? i = none ↔ i < -2 ^ 63 ∨ 2 ^ 63 ≤ i := by
  unfold int64?
  split <;> simp <;> omega

/-- Whether a 64-bit word can hold the integer. -/
def Fits (i : Int) : Prop := -2 ^ 63 ≤ i ∧ i < 2 ^ 63

instance (i : Int) : Decidable (Fits i) := inferInstanceAs (Decidable (_ ∧ _))

theorem fits_toInt (w : Int64) : Fits w.toInt := ⟨w.le_toInt, w.toInt_lt⟩

theorem fits_iff_exists {i : Int} : Fits i ↔ ∃ w : Int64, w.toInt = i := by
  constructor
  · intro h
    exact ⟨Int64.ofInt i, toInt_ofInt h.1 h.2⟩
  · rintro ⟨w, rfl⟩
    exact fits_toInt w

theorem int64?_eq_none_iff_not_fits {i : Int} : int64? i = none ↔ ¬Fits i := by
  rw [int64?_eq_none_iff, Fits]
  omega

theorem int32?_eq_some {i : Int} (low : -2 ^ 31 ≤ i) (high : i < 2 ^ 31) :
    int32? i = some (Int32.ofInt i) := if_pos ⟨low, high⟩

end ColumnDispatch.Checked
