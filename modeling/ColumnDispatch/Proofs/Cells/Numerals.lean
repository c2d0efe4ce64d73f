import ColumnDispatch.Calendar.Printer
import ColumnDispatch.Decimal.Numeral
import ColumnDispatch.Proofs.Texts

/-! Numerals that are read back. An integer is written without zeros in front, and with them it is
written at a fixed width, as long as it fits. Main statements: `Decimal.integer?_toString`, that the
text of an integer spells it, and `Calendar.spells_padded`, that the digits at a fixed width do. -/

namespace ColumnDispatch

namespace Decimal

/-- As many digits as the width says, which spell the number. -/
structure Spells (digits : List Char) (width n : Nat) : Prop where
  length_eq : digits.length = width
  isDigit : ∀ c ∈ digits, c.isDigit
  ofDigits_eq : ofDigits digits = n

theorem ofDigits_append_replicate_zero (zeros : Nat) (digits : List Char) :
    ofDigits (List.replicate zeros '0' ++ digits) = ofDigits digits := by
  change Nat.ofDigitChars 10 _ 0 = Nat.ofDigitChars 10 _ 0
  rw [Nat.ofDigitChars_append, Nat.ofDigitChars_replicate_zero, Nat.mul_zero]

theorem ofDigits_toString (n : Nat) : ofDigits (toString n).toList = n := by
  rw [Nat.toString_eq_ofList_toDigits, String.toList_ofList]
  exact Nat.ofDigitChars_ten_toDigits

/-- Digits have no sign in front. -/
theorem takeSign_of_isDigit {digits : List Char} (h : ∀ c ∈ digits, c.isDigit) :
    takeSign digits = (false, digits) := by
  unfold takeSign
  split
  · exact absurd (h '-' List.mem_cons_self) (by decide)
  · exact absurd (h '+' List.mem_cons_self) (by decide)
  · rfl

theorem all_isDigit_toString (n : Nat) : ∀ c ∈ (toString n).toList, c.isDigit :=
  fun _ => isDigit_of_mem_toString

/-- The text of an integer spells it. -/
theorem integer?_toString (i : Int) : integer? (toString i) = some i := by
  have hdigits (n : Nat) :
      (!(toString n).toList.isEmpty && (toString n).toList.all Char.isDigit) = true := by
    rw [Bool.and_eq_true, Bool.not_eq_true', List.isEmpty_eq_false_iff]
    exact ⟨toString_nat_ne_nil n, List.all_eq_true.2 (all_isDigit_toString n)⟩
  cases i with
  | ofNat n =>
    have htext : (toString (Int.ofNat n)).toList = (toString n).toList := rfl
    simp only [integer?, htext, takeSign_of_isDigit (all_isDigit_toString n), hdigits n, if_true,
      ofDigits_toString]
    rfl
  | negSucc n =>
    have htext : (toString (Int.negSucc n)).toList = '-' :: (toString (n + 1)).toList :=
      String.toList_append
    simp only [integer?, htext, takeSign, hdigits (n + 1), if_true, ofDigits_toString]
    rfl

end Decimal

theorem toList_pushn (s : String) (c : Char) (n : Nat) :
    (s.pushn c n).toList = s.toList ++ List.replicate n c := by
  rw [String.pushn_eq_repeat_push]
  induction n with
  | zero => simp [Nat.repeat]
  | succ n ih =>
    rw [Nat.repeat, String.toList_push, ih, List.append_assoc, ← List.replicate_succ']

namespace Calendar

open Decimal

/-- A number that fits the width is spelled by its digits with zeros in front. -/
theorem spells_padded {width n : Nat} (hwidth : 0 < width) (hn : n < 10 ^ width) :
    Spells (padded width n).toList width n := by
  have htext : (padded width n).toList =
      List.replicate (width - (toString n).length) '0' ++ (toString n).toList := by
    rw [padded, String.toList_append, toList_pushn]
    rfl
  have hlength : (toString n).length ≤ width := by
    rw [Nat.toString_eq_ofList_toDigits, String.length_ofList]
    exact (Nat.length_toDigits_le_iff (by decide) hwidth).2 hn
  rw [htext]
  refine ⟨?_, fun c hc => ?_, ?_⟩
  · rw [List.length_append, List.length_replicate, String.length_toList]
    omega
  · rcases List.mem_append.1 hc with h | h
    · rw [List.eq_of_mem_replicate h]
      decide
    · exact isDigit_of_mem_toString h
  · rw [ofDigits_append_replicate_zero, ofDigits_toString]

end Calendar

end ColumnDispatch
