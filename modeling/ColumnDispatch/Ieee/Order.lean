import ColumnDispatch.Ieee.Number

/-! The total order of bit patterns: negative before positive, and within a sign by magnitude, so
that the NaNs stand outside the infinities and -0 before 0. Main statement: `key` is injective, so
two numbers compare equal only when their bits are the same. -/

namespace ColumnDispatch.Ieee.Number

variable {f : Format}

/-- The place of the pattern in the total order. -/
def key (x : Number f) : Int := if x.isNegative then -x.magnitude - 1 else x.magnitude

theorem toNat_bits (x : Number f) :
    x.bits.toNat = (if x.isNegative then 2 ^ f.magnitudeBits else 0) + x.magnitude := by
  have hlt : x.bits.toNat < 2 ^ f.magnitudeBits + 2 ^ f.magnitudeBits := by
    have := x.bits.isLt
    rwa [Nat.pow_succ, Nat.mul_two] at this
  unfold isNegative magnitude
  rw [BitVec.msb_eq_decide]
  simp only [Nat.add_sub_cancel, decide_eq_true_eq]
  split
  · rename_i h
    rw [Nat.mod_eq_sub_mod h, Nat.mod_eq_of_lt (by omega)]
    omega
  · rename_i h
    rw [Nat.mod_eq_of_lt (by omega), Nat.zero_add]

theorem key_injective {x y : Number f} (h : x.key = y.key) : x = y := by
  have parts : x.isNegative = y.isNegative ∧ x.magnitude = y.magnitude := by
    unfold key at h
    cases hx : x.isNegative <;> cases hy : y.isNegative <;> simp [hx, hy] at h ⊢ <;> omega
  have bits : x.bits.toNat = y.bits.toNat := by rw [toNat_bits, toNat_bits, parts.1, parts.2]
  cases x
  cases y
  exact congrArg _ (BitVec.eq_of_toNat_eq bits)

instance : Ord (Number f) := ⟨fun x y => compare x.key y.key⟩

end ColumnDispatch.Ieee.Number
