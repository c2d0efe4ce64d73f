import ColumnDispatch.Calendar.Reader
import ColumnDispatch.Proofs.Cells.Numerals
import ColumnDispatch.Proofs.Cells.TextOrder

/-! Numbers that stand in a form. A digit is one byte, so numerals of a fixed width stand at known
places among the bytes of a text. Dates and times of day are three such numerals with a mark between
them. Main statements: `fits_joined`, that the bytes of three numerals fit the form, and
`number_first`, `number_second` and `number_third`, that the numbers are found at their places. -/

namespace ColumnDispatch.Calendar

open Decimal (Spells)

/-! ### Digits in bytes -/

/-- The byte of an ASCII character. -/
def code (c : Char) : UInt8 := .ofNat c.toNat

theorem toNat_code {c : Char} (h : c.toNat < 256) : (code c).toNat = c.toNat :=
  UInt8.toNat_ofNat_of_lt' h

theorem toNat_of_isDigit {c : Char} (h : c.isDigit) : 48 ≤ c.toNat ∧ c.toNat ≤ 57 :=
  Char.isDigit_iff_toNat.1 h

theorem toNat_code_of_isDigit {c : Char} (h : c.isDigit) : (code c).toNat = c.toNat := by
  have hc := toNat_of_isDigit h
  exact toNat_code (by omega)

theorem isDigitByte_code {c : Char} (h : c.isDigit) : isDigitByte (code c) := by
  have hc := toNat_of_isDigit h
  simpa [isDigitByte, UInt8.le_iff_toNat_le, toNat_code_of_isDigit h] using hc

theorem isDigitByte_of_mem {digits : List Char} (h : ∀ c ∈ digits, c.isDigit) :
    ∀ b ∈ digits.map code, isDigitByte b := by
  simpa [List.forall_mem_map] using fun c hc => isDigitByte_code (h c hc)

section Leading

variable {digits : List Char} (h : ∀ c ∈ digits, c.isDigit) {rest : List UInt8}
  (hrest : ∀ b ∈ rest.head?, ¬isDigitByte b)

include h hrest

theorem takeWhile_digits :
    (digits.map code ++ rest).takeWhile isDigitByte = digits.map code := by
  rw [List.takeWhile_append_of_pos (isDigitByte_of_mem h)]
  cases rest with
  | nil => simp
  | cons b rest => simp [hrest b rfl]

theorem dropWhile_digits : (digits.map code ++ rest).dropWhile isDigitByte = rest := by
  rw [List.dropWhile_append_of_pos (isDigitByte_of_mem h)]
  cases rest with
  | nil => rfl
  | cons b rest => simp [hrest b rfl]

end Leading

theorem bytes_of_digits {s : String} (h : ∀ c ∈ s.toList, c.isDigit) :
    Utf8.bytes s = s.toList.map code := by
  rw [Utf8.bytes_eq_flatMap]
  generalize s.toList = text at h
  induction text with
  | nil => rfl
  | cons c text ih =>
    have hc := toNat_of_isDigit (h c List.mem_cons_self)
    have hascii : c.val.toNat ≤ 127 := by
      have hval : c.val.toNat = c.toNat := rfl
      omega
    have hencode : String.utf8EncodeChar c = [code c] := by
      unfold String.utf8EncodeChar
      exact if_pos hascii
    rw [List.flatMap_cons, List.map_cons, hencode,
      ih fun d hd => h d (List.mem_cons_of_mem c hd)]
    rfl

/-- Bytes of digits spell what the digits do. -/
theorem foldl_code {digits : List Char} (h : ∀ c ∈ digits, c.isDigit) (n : Nat) :
    (digits.map code).foldl (fun n b => 10 * n + (b.toNat - 48)) n =
      digits.foldl (fun n c => 10 * n + (c.toNat - '0'.toNat)) n := by
  induction digits generalizing n with
  | nil => rfl
  | cons c digits ih =>
    have hc := toNat_code_of_isDigit (h c List.mem_cons_self)
    rw [List.map_cons, List.foldl_cons, List.foldl_cons, hc,
      ih fun d hd => h d (List.mem_cons_of_mem c hd)]
    rfl

section Forms

variable {digits : List Char} {width n : Nat}

theorem number_of_spells (h : Spells digits width n) {bytes : List UInt8} {start count : Nat}
    (hpart : (bytes.drop start).take count = digits.map code) : number bytes start count = n := by
  rw [number, hpart, List.filter_eq_self.2 (isDigitByte_of_mem h.isDigit), foldl_code h.isDigit]
  exact h.ofDigits_eq

theorem number_digits_append (h : Spells digits width n) (rest : List UInt8) :
    number (digits.map code ++ rest) 0 width = n := by
  refine number_of_spells h ?_
  rw [List.drop_zero, ← h.length_eq, ← List.length_map (f := code), List.take_left]

theorem number_append {before : List UInt8} (h : before.length = width) (bytes : List UInt8)
    (start count : Nat) :
    number (before ++ bytes) (width + start) count = number bytes start count := by
  subst h
  rw [number, List.drop_length_add_append]
  rfl

theorem number_cons (b : UInt8) (bytes : List UInt8) (start count : Nat) :
    number (b :: bytes) (start + 1) count = number bytes start count := rfl

theorem fits_digits (hlength : digits.length = width) (h : ∀ c ∈ digits, c.isDigit)
    (slots : List Slot) (rest : List UInt8) :
    fits (List.replicate width .digit ++ slots) (digits.map code ++ rest) = fits slots rest := by
  subst hlength
  induction digits with
  | nil => rfl
  | cons c digits ih =>
    have hc : Slot.digit.fits (some (code c)) = true := isDigitByte_code (h c List.mem_cons_self)
    rw [List.length_cons, List.replicate_succ, List.map_cons, List.cons_append, List.cons_append,
      fits, hc, Bool.true_and, ih fun d hd => h d (List.mem_cons_of_mem c hd)]

theorem fits_exactly {mark : Char} (h : mark.toNat < 256) (slots : List Slot)
    (rest : List UInt8) : fits (.exactly mark :: slots) (code mark :: rest) = fits slots rest := by
  simp [fits, Slot.fits, toNat_code h]

end Forms

/-! ### Three numbers in a row -/

/-- Three numbers with a mark between them, and what follows. -/
def joined (mark : Char) (first second third : List Char) (rest : List UInt8) : List UInt8 :=
  first.map code ++ code mark :: (second.map code ++ code mark :: (third.map code ++ rest))

theorem bytes_joined {mark : Char} {sign : String} (hsign : Utf8.bytes sign = [code mark])
    {first second third : String} (hfirst : ∀ c ∈ first.toList, c.isDigit)
    (hsecond : ∀ c ∈ second.toList, c.isDigit) (hthird : ∀ c ∈ third.toList, c.isDigit)
    (rest : List UInt8) :
    Utf8.bytes (first ++ sign ++ second ++ sign ++ third) ++ rest =
      joined mark first.toList second.toList third.toList rest := by
  rw [Utf8.bytes_append, Utf8.bytes_append, Utf8.bytes_append, Utf8.bytes_append, hsign,
    bytes_of_digits hfirst, bytes_of_digits hsecond, bytes_of_digits hthird]
  simp [joined]

theorem lt_of_mem_digits {digits : List Char} (h : ∀ c ∈ digits, c.isDigit) :
    ∀ b ∈ digits.map code, b.toNat < 128 := by
  simp only [List.forall_mem_map]
  intro c hc
  have hdigit := toNat_of_isDigit (h c hc)
  rw [toNat_code_of_isDigit (h c hc)]
  omega

/-- The form of three numbers with a mark between them, the last two of two digits. -/
def joinedForm (mark : Char) (width : Nat) : List Slot :=
  List.replicate width .digit ++ .exactly mark ::
    (List.replicate 2 .digit ++ .exactly mark :: (List.replicate 2 .digit ++ []))

section Joined

variable {mark : Char} {first second third : List Char} {width a b c : Nat}
  (hfirst : Spells first width a) (hsecond : Spells second 2 b) (hthird : Spells third 2 c)
  (rest : List UInt8)

include hfirst hsecond hthird

theorem fits_joined (hmark : mark.toNat < 256) :
    fits (joinedForm mark width) (joined mark first second third rest) := by
  rw [joinedForm, joined, fits_digits hfirst.length_eq hfirst.isDigit, fits_exactly hmark,
    fits_digits hsecond.length_eq hsecond.isDigit, fits_exactly hmark,
    fits_digits hthird.length_eq hthird.isDigit, fits]

theorem drop_joined : (joined mark first second third rest).drop (width + 6) = rest := by
  have hlength : (joined mark first second third []).length = width + 6 := by
    simp [joined, hfirst.length_eq, hsecond.length_eq, hthird.length_eq]
  have hsplit : joined mark first second third rest =
      joined mark first second third [] ++ rest := by
    simp [joined]
  rw [hsplit, ← hlength, List.drop_left]

theorem lt_of_mem_joined (hmark : mark.toNat < 128) (hrest : ∀ b ∈ rest, b.toNat < 128) :
    ∀ b ∈ joined mark first second third rest, b.toNat < 128 := by
  have hcode : (code mark).toNat < 128 := by rwa [toNat_code (by omega)]
  simp only [joined, List.forall_mem_append, List.forall_mem_cons]
  exact ⟨lt_of_mem_digits hfirst.isDigit, hcode, lt_of_mem_digits hsecond.isDigit, hcode,
    lt_of_mem_digits hthird.isDigit, hrest⟩

omit hsecond hthird in
theorem number_first : number (joined mark first second third rest) 0 width = a :=
  number_digits_append hfirst _

omit hthird in
theorem number_second : number (joined mark first second third rest) (width + 1) 2 = b := by
  have hlength : (first.map code).length = width := by rw [List.length_map, hfirst.length_eq]
  rw [joined, number_append hlength, number_cons]
  exact number_digits_append hsecond _

theorem number_third : number (joined mark first second third rest) (width + 4) 2 = c := by
  have hlength : (first.map code).length = width := by rw [List.length_map, hfirst.length_eq]
  have hlength' : (second.map code).length = 2 := by rw [List.length_map, hsecond.length_eq]
  rw [joined, number_append hlength, number_cons, number_append hlength' _ 1, number_cons]
  exact number_digits_append hthird _

end Joined

end ColumnDispatch.Calendar
