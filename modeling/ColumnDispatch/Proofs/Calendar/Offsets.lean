import ColumnDispatch.Proofs.Calendar.Forms
import Mathlib.Tactic.SplitIfs

/-! Offsets from universal time that are read back. Labels of time zones spell whole minutes, less
than a day to either side, and the text of such an offset spells it behind a time of day. Main
statements: `isOffset_of_zoneOffset?` and `spellsOffset_zoneText`. -/

namespace ColumnDispatch.Calendar

open Decimal (Spells)

/-- Whole minutes, less than a day to either side. -/
structure IsOffset (offset : Int) : Prop where
  wholeMinutes : 60 ∣ offset
  lt : offset.natAbs < 86400

/-! ### Labels -/

theorem dvd_of_hoursMinutes? {bytes : List UInt8} {seconds : Nat}
    (h : hoursMinutes? bytes = some seconds) : 60 ∣ seconds := by
  unfold hoursMinutes? at h
  dsimp only at h
  split_ifs at h <;> obtain rfl := Option.some.inj h <;> omega

theorem isOffset_of_offset? {bytes : List UInt8} {offset : Int} (h : offset? bytes = some offset) :
    IsOffset offset := by
  cases bytes with
  | nil => cases h
  | cons sign clock =>
    obtain ⟨seconds, hseconds, hsign⟩ := Option.bind_eq_some_iff.1 h
    have hminutes := dvd_of_hoursMinutes? hseconds
    have hday : secondsPerDay = 86400 := rfl
    split_ifs at hsign <;> obtain rfl := Option.some.inj hsign <;> exact ⟨by omega, by omega⟩

theorem isOffset_of_zoneOffset? {label : String} {offset : Int}
    (h : zoneOffset? label = .ok offset) : IsOffset offset := by
  unfold zoneOffset? at h
  split at h
  · next seconds hseconds =>
    obtain rfl := Except.ok.inj h
    exact isOffset_of_offset? hseconds
  · cases h

/-! ### Texts behind a time of day -/

/-- A text that may stand behind a time of day and spells an offset there. -/
structure SpellsOffset (text : String) (offset : Int) : Prop where
  read : offsetText? text.toList = .ok offset
  /-- It is not taken for a part of the time. -/
  head : ∀ b ∈ (Utf8.bytes text).head?, ¬isDigitByte b ∧ b ≠ 46

/-- Nothing stands for universal time. -/
theorem spellsOffset_empty : SpellsOffset "" 0 where
  read := rfl
  head := by
    have hbytes : Utf8.bytes "" = [] := by decide
    rw [hbytes]
    nofun

theorem spellsOffset_Z : SpellsOffset "Z" 0 where
  read := rfl
  head := by
    have hbytes : Utf8.bytes "Z" = [90] := by decide
    rw [hbytes, List.head?_cons]
    rintro b ⟨⟩
    decide

theorem hoursMinutes?_eq {hour minute : List Char} {a b : Nat} (hhour : Spells hour 2 a)
    (hminute : Spells minute 2 b) :
    hoursMinutes? (hour.map code ++ code ':' :: (minute.map code ++ [])) =
      some (a * 3600 + b * 60) := by
  have hform : form "00:00" =
      List.replicate 2 .digit ++ .exactly ':' :: (List.replicate 2 .digit ++ []) := rfl
  have hfits : fits (form "00:00") (hour.map code ++ code ':' :: (minute.map code ++ [])) := by
    rw [hform, fits_digits hhour.length_eq hhour.isDigit, fits_exactly (by decide),
      fits_digits hminute.length_eq hminute.isDigit, fits]
  have hlength : (hour.map code ++ code ':' :: (minute.map code ++ [])).length = 5 := by
    simp [hhour.length_eq, hminute.length_eq]
  have hwidth : (hour.map code).length = 2 := by rw [List.length_map, hhour.length_eq]
  rw [hoursMinutes?, if_pos ⟨hlength, hfits⟩, number_digits_append hhour,
    number_append hwidth _ 1, number_cons, number_digits_append hminute]

/-- A sign and what spells less than a day. -/
theorem spellsOffset_append {sign : Char} {clock : String} {seconds : Nat}
    (hclock : hoursMinutes? (Utf8.bytes clock) = some seconds) (hday : seconds < 86400)
    {offset : Int} (hsign : sign = '+' ∧ offset = seconds ∨ sign = '-' ∧ offset = -seconds) :
    SpellsOffset (.singleton sign ++ clock) offset := by
  have hmore : ¬secondsPerDay ≤ (seconds : Int) := by
    rw [secondsPerDay]
    omega
  have htext : (.singleton sign ++ clock : String).toList = sign :: clock.toList := by
    rw [String.toList_append, String.toList_singleton, List.singleton_append]
  have hlabel : String.ofList (sign :: clock.toList) = .singleton sign ++ clock := by
    rw [← htext, String.ofList_toList]
  have hbytes : Utf8.bytes (.singleton sign ++ clock) = code sign :: Utf8.bytes clock := by
    rw [Utf8.bytes_append]
    rcases hsign with ⟨rfl, -⟩ | ⟨rfl, -⟩ <;> rfl
  have hoffset : offset? (code sign :: Utf8.bytes clock) = some offset := by
    simp only [offset?, hclock, Option.bind_some, if_neg hmore]
    rcases hsign with ⟨rfl, rfl⟩ | ⟨rfl, rfl⟩ <;> rfl
  refine ⟨?_, ?_⟩
  · have hzone : zoneOffset? (.singleton sign ++ clock) = .ok offset := by
      have hlabel : (.singleton sign ++ clock : String).toUTF8.data.toList =
          code sign :: Utf8.bytes clock := hbytes
      simp only [zoneOffset?, hlabel, hoffset]
    rw [htext, ← hzone, ← hlabel]
    rcases hsign with ⟨rfl, -⟩ | ⟨rfl, -⟩ <;> simp [offsetText?, Text.trimStart, Text.isBlank]
  · rw [hbytes, List.head?_cons]
    rintro b ⟨⟩
    rcases hsign with ⟨rfl, -⟩ | ⟨rfl, -⟩ <;> decide

/-- The text of an offset spells it. -/
theorem spellsOffset_zoneText {offset : Int} (h : IsOffset offset) :
    SpellsOffset (zoneText offset) offset := by
  obtain ⟨hminutes, hday⟩ := h
  have hhour := @spells_padded 2 (offset.natAbs / 60 / 60) (by decide) (by omega)
  have hminute := @spells_padded 2 (offset.natAbs / 60 % 60) (by decide) (by omega)
  let clock := padded 2 (offset.natAbs / 60 / 60) ++ ":" ++ padded 2 (offset.natAbs / 60 % 60)
  have hclock : hoursMinutes? (Utf8.bytes clock) = some offset.natAbs := by
    have hmark : Utf8.bytes ":" = [code ':'] := by decide
    have hseconds : offset.natAbs / 60 / 60 * 3600 + offset.natAbs / 60 % 60 * 60 =
        offset.natAbs := by omega
    have hbytes := hoursMinutes?_eq hhour hminute
    rw [hseconds] at hbytes
    rw [← hbytes, Utf8.bytes_append, Utf8.bytes_append, hmark, bytes_of_digits hhour.isDigit,
      bytes_of_digits hminute.isDigit]
    simp
  rcases Int.lt_trichotomy offset 0 with hneg | rfl | hpos
  · have htext : zoneText offset = .singleton '-' ++ clock := by
      rw [zoneText, if_neg (by omega), if_pos hneg]
      rfl
    rw [htext]
    exact spellsOffset_append hclock hday (.inr ⟨rfl, by omega⟩)
  · exact spellsOffset_Z
  · have htext : zoneText offset = .singleton '+' ++ clock := by
      rw [zoneText, if_neg (by omega), if_neg (by omega)]
      rfl
    rw [htext]
    exact spellsOffset_append hclock hday (.inl ⟨rfl, by omega⟩)

end ColumnDispatch.Calendar
