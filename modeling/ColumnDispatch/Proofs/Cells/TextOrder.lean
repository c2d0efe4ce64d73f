/-! The order of texts is that of their UTF-8 bytes. A code point is a lead byte, which tells how
many bytes follow, and digits in base 64 behind it; the larger of two code points has the larger
lead byte, or as many digits and the larger number in them. Main statement: `lt_iff_bytes_lt`. -/

namespace ColumnDispatch.Utf8

/-- The bytes of a text in UTF-8. -/
def bytes (s : String) : List UInt8 := s.toByteArray.data.toList

theorem bytes_eq_flatMap (s : String) : bytes s = s.toList.flatMap String.utf8EncodeChar := by
  rw [bytes, ← String.ofList_toList (s := s), String.toByteArray_ofList, List.utf8Encode,
    List.toList_data_toByteArray, String.toList_ofList]

theorem bytes_append (s t : String) : bytes (s ++ t) = bytes s ++ bytes t := by
  rw [bytes_eq_flatMap, bytes_eq_flatMap, bytes_eq_flatMap, String.toList_append,
    List.flatMap_append]

/-! ### Code points -/

/-- The last digits of a number in base 64, each in a byte that marks it as a digit. -/
def digits (v : Nat) : Nat → List UInt8
  | 0 => []
  | count + 1 => .ofNat (v / 64 ^ count % 64 + 128) :: digits v count

/-- How many digits follow the lead byte of a code point. -/
def digitCount (v : Nat) : Nat :=
  if v ≤ 0x7F then 0 else if v ≤ 0x7FF then 1 else if v ≤ 0xFFFF then 2 else 3

/-- The least lead byte with that many digits or more behind it. -/
def mark : Nat → Nat
  | 0 => 0
  | 1 => 0xC0
  | 2 => 0xE0
  | 3 => 0xF0
  | _ => 0xF8

/-- The first byte of a code point: the digit in front of the others, and how many these are. -/
def lead (v : Nat) : Nat := v / 64 ^ digitCount v + mark (digitCount v)

theorem toNat_lt (c : Char) : c.toNat < 0x110000 := by
  rcases c.valid with h | ⟨-, h⟩
  · exact Nat.lt_trans h (by decide)
  · exact h

theorem utf8EncodeChar_eq (c : Char) :
    String.utf8EncodeChar c = .ofNat (lead c.toNat) :: digits c.toNat (digitCount c.toNat) := by
  have hlt := toNat_lt c
  unfold String.utf8EncodeChar lead digitCount
  simp only [Char.toNat] at hlt ⊢
  repeat' split
  all_goals simp (disch := omega) only [digits, mark, Nat.pow_zero, Nat.reducePow, Nat.div_one,
    Nat.add_zero, Nat.mod_eq_of_lt]

theorem mark_le_succ : (count : Nat) → mark count ≤ mark (count + 1)
  | 0 | 1 | 2 | 3 => by decide
  | _ + 4 => Nat.le_refl 0xF8

theorem mark_le_mark {m n : Nat} (h : m ≤ n) : mark m ≤ mark n := by
  induction h with
  | refl => exact Nat.le_refl _
  | step _ ih => exact Nat.le_trans ih (mark_le_succ _)

theorem lead_lt_mark {v : Nat} (hv : v < 0x110000) : lead v < mark (digitCount v + 1) := by
  unfold lead digitCount
  repeat' split
  all_goals simp only [mark, Nat.reducePow]; omega

theorem lead_lt {v : Nat} (hv : v < 0x110000) : lead v < 256 :=
  Nat.lt_of_lt_of_le (lead_lt_mark hv) (by unfold mark; split <;> decide)

theorem digitCount_eq_zero_of_lead {v : Nat} (h : lead v < 128) : digitCount v = 0 := by
  rcases Nat.eq_zero_or_pos (digitCount v) with hzero | hpos
  · exact hzero
  · have hmark : 0xC0 ≤ mark (digitCount v) := mark_le_mark hpos
    have hlead : mark (digitCount v) ≤ lead v := Nat.le_add_left _ _
    omega

/-- Bytes below 128 are one for each character. -/
theorem length_bytes_eq {s : String} (h : ∀ b ∈ bytes s, b.toNat < 128) :
    (bytes s).length = s.toList.length := by
  rw [bytes_eq_flatMap] at h ⊢
  generalize s.toList = text at h
  induction text with
  | nil => rfl
  | cons c text ih =>
    rw [List.flatMap_cons, utf8EncodeChar_eq] at h ⊢
    rw [List.forall_mem_append, List.forall_mem_cons,
      UInt8.toNat_ofNat_of_lt' (lead_lt (toNat_lt c))] at h
    obtain ⟨⟨hlead, -⟩, htext⟩ := h
    rw [digitCount_eq_zero_of_lead hlead, List.length_append, ih htext]
    simp [digits, Nat.add_comm]

/-- What is behind such bytes is found behind as many characters. -/
theorem drop_toList_append {front back : String} (h : ∀ b ∈ bytes front, b.toNat < 128) :
    (front ++ back).toList.drop ((bytes (front ++ back)).length - (bytes back).length) =
      back.toList := by
  rw [bytes_append, List.length_append, Nat.add_sub_cancel, length_bytes_eq h,
    String.toList_append, List.drop_left]

theorem digitCount_le {v w : Nat} (h : v < w) : digitCount v ≤ digitCount w := by
  grind [digitCount]

/-! ### Order -/

theorem ofNat_lt_ofNat_iff {m n : Nat} (hm : m < 256) (hn : n < 256) :
    UInt8.ofNat m < UInt8.ofNat n ↔ m < n := by
  rw [UInt8.lt_iff_toNat_lt, UInt8.toNat_ofNat_of_lt' hm, UInt8.toNat_ofNat_of_lt' hn]

/-- Of two numbers the larger has the larger quotient, or the same one and the larger rest. -/
theorem div_lt_or_mod_lt {v w : Nat} (h : v < w) (b : Nat) :
    v / b < w / b ∨ (v / b = w / b ∧ v % b < w % b) := by
  rcases Nat.lt_or_eq_of_le (Nat.div_le_div_right (c := b) (Nat.le_of_lt h)) with hlt | heq
  · exact .inl hlt
  · refine .inr ⟨heq, ?_⟩
    rw [← Nat.div_add_mod v b, ← Nat.div_add_mod w b, heq] at h
    exact Nat.lt_of_add_lt_add_left h

theorem digits_append_lt {v w count : Nat} (h : v % 64 ^ count < w % 64 ^ count)
    (xs ys : List UInt8) : digits v count ++ xs < digits w count ++ ys := by
  induction count with
  | zero => simp [Nat.mod_one] at h
  | succ count ih =>
    have hdigit (n : Nat) : n / 64 ^ count % 64 + 128 < 256 := by omega
    have hparts := div_lt_or_mod_lt h (64 ^ count)
    simp only [Nat.pow_succ, Nat.mod_mul_right_div_self, Nat.mod_mul_right_mod] at hparts
    rw [digits, digits, List.cons_append, List.cons_append, List.cons_lt_cons_iff,
      ofNat_lt_ofNat_iff (hdigit v) (hdigit w)]
    rcases hparts with hlt | ⟨heq, hlt⟩
    · exact .inl (Nat.add_lt_add_right hlt 128)
    · exact .inr ⟨by rw [heq], ih hlt⟩

theorem utf8EncodeChar_append_lt {c d : Char} (h : c < d) (xs ys : List UInt8) :
    String.utf8EncodeChar c ++ xs < String.utf8EncodeChar d ++ ys := by
  have hlt : c.toNat < d.toNat := h
  rw [utf8EncodeChar_eq, utf8EncodeChar_eq, List.cons_append, List.cons_append,
    List.cons_lt_cons_iff, ofNat_lt_ofNat_iff (lead_lt (toNat_lt c)) (lead_lt (toNat_lt d))]
  rcases Nat.lt_or_eq_of_le (digitCount_le hlt) with hcount | hcount
  · have hmark : mark (digitCount d.toNat) ≤ lead d.toNat := Nat.le_add_left _ _
    have hle := mark_le_mark (Nat.succ_le_of_lt hcount)
    exact .inl (Nat.lt_of_lt_of_le (lead_lt_mark (toNat_lt c)) (Nat.le_trans hle hmark))
  · rw [lead, lead, hcount]
    rcases div_lt_or_mod_lt hlt (64 ^ digitCount d.toNat) with hdiv | ⟨hdiv, hmod⟩
    · exact .inl (Nat.add_lt_add_right hdiv _)
    · exact .inr ⟨by rw [hdiv], digits_append_lt hmod xs ys⟩

/-! ### Texts -/

theorem flatMap_lt_of_lt {cs ds : List Char} (h : cs < ds) :
    cs.flatMap String.utf8EncodeChar < ds.flatMap String.utf8EncodeChar := by
  induction h with
  | nil =>
    rw [List.flatMap_nil, List.flatMap_cons, utf8EncodeChar_eq]
    exact .nil
  | rel h => exact utf8EncodeChar_append_lt h _ _
  | cons _ ih => exact List.append_left_lt ih

/-- Texts are in the order of their code points exactly if they are in that of their bytes. -/
theorem lt_iff_bytes_lt {s t : String} : s < t ↔ bytes s < bytes t := by
  rw [String.lt_iff, bytes_eq_flatMap, bytes_eq_flatMap]
  refine ⟨flatMap_lt_of_lt, fun h => ?_⟩
  rcases Std.lt_trichotomy s.toList t.toList with hlt | heq | hgt
  · exact hlt
  · exact absurd (heq ▸ h) (List.lt_irrefl _)
  · exact absurd h (List.lt_asymm (flatMap_lt_of_lt hgt))

theorem compare_eq_lt_iff {s t : String} : compare s t = .lt ↔ bytes s < bytes t := by
  rw [← lt_iff_bytes_lt]
  exact compareOfLessAndEq_eq_lt

end ColumnDispatch.Utf8
