import ColumnDispatch.Proofs.Calendar.DayCount
import ColumnDispatch.Proofs.Calendar.Offsets

/-! Dates and instants that are read back, in the years 0000 to 9999. What a text is read as depends
on the date that it begins with and on what is behind the date. Main statements: `date?_text` and
`instant?_text`, on the text of a day, and `exists_instantText` and `exists_localText`, on the text
of an instant in universal time and at an offset from it. -/

namespace ColumnDispatch.Calendar

open Decimal (Spells)

/-! ### Texts that begin with a date -/

section Reading

variable {text : String} {bytes : List UInt8} (hbytes : Utf8.bytes text = bytes)

include hbytes

theorem date?_of_short (h : bytes.length ≤ 10) : date? text = shortDate? bytes := by
  subst hbytes
  exact if_pos h

theorem date?_of_long (h : 10 < bytes.length) :
    date? text = (instant? text).toOption.map Instant.day := by
  subst hbytes
  refine (if_neg (Nat.not_le.2 h)).trans ?_
  cases instant? text <;> rfl

/-- What is behind a date decides what a text is read as. -/
theorem instant?_of_date {day : Int} (hlength : 10 ≤ bytes.length) (hfits : fits fullDate bytes)
    (hdate : dateAt bytes (5, 2) (8, 2) = some day) :
    instant? text =
      match bytes.drop 10 with
      | [] => .ok ⟨day * secondsPerDay, 0⟩
      | separator :: clock =>
        if isSeparator separator then
          match time? clock with
          | some (time, rest) =>
            (offsetText? (text.toList.drop (bytes.length - rest.length))).map fun offset =>
              ⟨day * secondsPerDay + time.seconds - offset, time.micros⟩
          | none => .error .time
        else .error .separator := by
  have htext : text.toUTF8.data.toList = bytes := hbytes
  unfold instant?
  simp only [htext, if_neg (Nat.not_lt.2 hlength), hfits, if_true, hdate]
  cases bytes.drop 10 with
  | nil => rfl
  | cons separator clock =>
    cases hseparator : isSeparator separator with
    | false =>
      simp only [hseparator]
      rfl
    | true =>
      simp only [hseparator]
      cases time? clock with
      | none => rfl
      | some read =>
        obtain ⟨time, rest⟩ := read
        cases offsetText? (text.toList.drop (bytes.length - rest.length)) <;> rfl

end Reading

/-! ### Dates -/

section Dates

variable {days : Int} (h : HasFourDigitYear days)

include h

theorem isShowable_ofDayNumber : (Civil.ofDayNumber days).isShowable := by
  obtain ⟨hge, hle⟩ := h
  simp only [Civil.isShowable, Bool.and_eq_true, decide_eq_true_eq]
  omega

theorem dateText?_eq : dateText? days = some (Civil.ofDayNumber days).text :=
  if_pos (isShowable_ofDayNumber h)

/-- The text of a date is its year, month and day with a mark between them. -/
theorem exists_joined_date :
    ∃ year month day,
      Spells year 4 (Civil.ofDayNumber days).year.toNat ∧
      Spells month 2 (Civil.ofDayNumber days).month ∧
      Spells day 2 (Civil.ofDayNumber days).day ∧
      ∀ rest,
        Utf8.bytes (Civil.ofDayNumber days).text ++ rest = joined '-' year month day rest := by
  obtain ⟨hge, hle⟩ := h
  have hvalid := Civil.isValid_ofDayNumber days
  generalize Civil.ofDayNumber days = c at *
  simp only [Civil.isValid, Bool.and_eq_true, decide_eq_true_eq] at hvalid
  have hdays := daysInMonth_le c.year c.month
  have hyear := @spells_padded 4 c.year.toNat (by decide) (by omega)
  have hmonth := @spells_padded 2 c.month (by decide) (by omega)
  have hday := @spells_padded 2 c.day (by decide) (by omega)
  have htext : c.text =
      padded 4 c.year.toNat ++ "-" ++ padded 2 c.month ++ "-" ++ padded 2 c.day := by
    have hparts : c.text =
        yearText c.year ++ "-" ++ padded 2 c.month ++ "-" ++ padded 2 c.day := rfl
    rw [hparts, yearText, if_pos ⟨hge, hle⟩]
  refine ⟨_, _, _, hyear, hmonth, hday, fun rest => ?_⟩
  rw [htext]
  exact bytes_joined (by decide) hyear.isDigit hmonth.isDigit hday.isDigit rest

/-- A text that begins with a date begins with a full one, which stands for the day. -/
theorem reads_date (rest : List UInt8) :
    let bytes := Utf8.bytes (Civil.ofDayNumber days).text ++ rest
    fits fullDate bytes ∧ dateAt bytes (5, 2) (8, 2) = some days ∧ bytes.drop 10 = rest := by
  obtain ⟨year, month, day, hyear, hmonth, hday, hbytes⟩ := exists_joined_date h
  rw [hbytes]
  refine ⟨fits_joined hyear hmonth hday rest (by decide), ?_, drop_joined hyear hmonth hday rest⟩
  rw [dateAt, number_first hyear, number_second hyear hmonth, number_third hyear hmonth hday,
    Int.toNat_of_nonneg h.1]
  exact (if_pos (Civil.isValid_ofDayNumber days)).trans
    (congrArg some (Civil.dayNumber_ofDayNumber days))

theorem length_bytes_text : (Utf8.bytes (Civil.ofDayNumber days).text).length = 10 := by
  obtain ⟨year, month, day, hyear, hmonth, hday, hbytes⟩ := exists_joined_date h
  rw [← List.append_nil (Utf8.bytes _), hbytes]
  simp [joined, hyear.length_eq, hmonth.length_eq, hday.length_eq]

theorem lt_of_mem_text : ∀ b ∈ Utf8.bytes (Civil.ofDayNumber days).text, b.toNat < 128 := by
  obtain ⟨year, month, day, hyear, hmonth, hday, hbytes⟩ := exists_joined_date h
  rw [← List.append_nil (Utf8.bytes _), hbytes]
  exact lt_of_mem_joined hyear hmonth hday [] (by decide) nofun

/-- The text of a date is read as the start of the day. -/
theorem instant?_text :
    instant? (Civil.ofDayNumber days).text = .ok ⟨days * secondsPerDay, 0⟩ := by
  obtain ⟨hfits, hdate, hrest⟩ := reads_date h []
  have hlength := length_bytes_text h
  rw [List.append_nil] at hfits hdate hrest
  rw [instant?_of_date rfl (by omega) hfits hdate, hrest]

theorem date?_text : date? (Civil.ofDayNumber days).text = some days := by
  obtain ⟨hfits, hdate, -⟩ := reads_date h []
  have hlength := length_bytes_text h
  rw [List.append_nil] at hfits hdate
  rw [date?_of_short rfl (by omega), shortDate?, if_pos hfits, hdate]

end Dates

/-! ### Times of day -/

theorem fraction_cases {f : Nat} (h : f < 1000000) :
    (f = 0 ∧ Utf8.bytes (fractionText f) = []) ∨
    ∃ digits width n, Spells digits width n ∧ 0 < width ∧ width ≤ 6 ∧ n * 10 ^ (6 - width) = f ∧
      Utf8.bytes (fractionText f) = 46 :: digits.map code := by
  unfold fractionText
  have hpoint : Utf8.bytes "." = [46] := by decide
  split
  · next hzero => exact .inl ⟨hzero, by decide⟩
  · split
    · have hdigits := @spells_padded 3 (f / 1000) (by decide) (by omega)
      refine .inr ⟨_, 3, f / 1000, hdigits, by decide, by decide, by omega, ?_⟩
      rw [Utf8.bytes_append, hpoint, bytes_of_digits hdigits.isDigit]
      rfl
    · have hdigits := @spells_padded 6 f (by decide) h
      refine .inr ⟨_, 6, f, hdigits, by decide, by decide, by omega, ?_⟩
      rw [Utf8.bytes_append, hpoint, bytes_of_digits hdigits.isDigit]
      rfl

theorem fractionMicros_eq {digits : List Char} {width n : Nat} (h : Spells digits width n)
    (hwidth : width ≤ 6) : fractionMicros (digits.map code) = n * 10 ^ (6 - width) := by
  have hlength : (digits.map code).length = width := by rw [List.length_map, h.length_eq]
  have hall : (digits.map code).take 6 = digits.map code := List.take_of_length_le (by omega)
  rw [fractionMicros, hall, hlength]
  have hnumber : number (digits.map code) 0 6 = n := number_of_spells h hall
  rw [hnumber]

/-- A time of day outside a leap second counts its seconds from the start of the day. -/
theorem timeOfDay?_eq {seconds : Nat} (h : seconds < 86400) (micros : Nat) :
    timeOfDay? (seconds / 3600) (seconds / 60 % 60) (seconds % 60) micros =
      some ⟨seconds, micros⟩ := by
  have hleap : seconds % 60 ≠ 60 := by omega
  have hseconds : (seconds / 3600 : Nat) * 3600 + (seconds / 60 % 60 : Nat) * 60 +
      (seconds % 60 : Nat) = (seconds : Int) := by omega
  rw [timeOfDay?, if_pos ⟨by omega, by omega, by omega⟩]
  simp only [hleap, if_false, hseconds]

section Times

variable {micros : Nat} (h : micros < 86400000000)

include h

theorem exists_joined_time :
    ∃ hour minute second,
      Spells hour 2 (micros / 1000000 / 3600) ∧
      Spells minute 2 (micros / 1000000 / 60 % 60) ∧
      Spells second 2 (micros / 1000000 % 60) ∧
      ∀ rest, Utf8.bytes (timeText micros) ++ rest =
        joined ':' hour minute second (Utf8.bytes (fractionText (micros % 1000000)) ++ rest) := by
  have hhour := @spells_padded 2 (micros / 1000000 / 3600) (by decide) (by omega)
  have hminute := @spells_padded 2 (micros / 1000000 / 60 % 60) (by decide) (by omega)
  have hsecond := @spells_padded 2 (micros / 1000000 % 60) (by decide) (by omega)
  have htext : timeText micros =
      padded 2 (micros / 1000000 / 3600) ++ ":" ++ padded 2 (micros / 1000000 / 60 % 60) ++ ":" ++
        padded 2 (micros / 1000000 % 60) ++ fractionText (micros % 1000000) := rfl
  refine ⟨_, _, _, hhour, hminute, hsecond, fun rest => ?_⟩
  rw [htext, Utf8.bytes_append, List.append_assoc]
  exact bytes_joined (by decide) hhour.isDigit hminute.isDigit hsecond.isDigit _

theorem lt_of_mem_timeText : ∀ b ∈ Utf8.bytes (timeText micros), b.toNat < 128 := by
  obtain ⟨hour, minute, second, hhour, hminute, hsecond, hbytes⟩ := exists_joined_time h
  rw [← List.append_nil (Utf8.bytes _), hbytes, List.append_nil]
  refine lt_of_mem_joined hhour hminute hsecond _ (by decide) ?_
  rcases @fraction_cases (micros % 1000000) (by omega) with
    ⟨-, hnone⟩ | ⟨digits, _, _, hdigits, -, -, -, hsome⟩
  · rw [hnone]
    nofun
  · rw [hsome]
    exact List.forall_mem_cons.2 ⟨by decide, lt_of_mem_digits hdigits.isDigit⟩

/-- The text of a time of day is read in full, and nothing behind it is. -/
theorem time?_timeText {rest : List UInt8}
    (hrest : ∀ b ∈ rest.head?, ¬isDigitByte b ∧ b ≠ 46) :
    time? (Utf8.bytes (timeText micros) ++ rest) =
      some (⟨(micros / 1000000 : Nat), micros % 1000000⟩, rest) := by
  obtain ⟨hour, minute, second, hhour, hminute, hsecond, hbytes⟩ := exists_joined_time h
  have hfits : fits (joinedForm ':' 2)
      (joined ':' hour minute second (Utf8.bytes (fractionText (micros % 1000000)) ++ rest)) :=
    fits_joined hhour hminute hsecond _ (by decide)
  have hform : form "00:00:00" = joinedForm ':' 2 := rfl
  have hclock := @timeOfDay?_eq (micros / 1000000) (by omega)
  rw [time?, hbytes, hform, if_pos hfits, drop_joined hhour hminute hsecond,
    number_first hhour, number_second hhour hminute, number_third hhour hminute hsecond]
  rcases @fraction_cases (micros % 1000000) (by omega) with
    ⟨hzero, hnone⟩ | ⟨digits, width, n, hdigits, hpos, hle, hvalue, hsome⟩
  · rw [hnone, List.nil_append, hzero]
    split
    · next tail => exact absurd rfl (hrest 46 rfl).2
    · exact congrArg (Option.map (·, rest)) (hclock 0)
  · have hne : (digits.map code).isEmpty = false := by
      rw [List.isEmpty_eq_false_iff, ← List.length_pos_iff, List.length_map, hdigits.length_eq]
      exact hpos
    have hmicros : fractionMicros (digits.map code) = micros % 1000000 :=
      (fractionMicros_eq hdigits hle).trans hvalue
    have hdigit : ∀ b ∈ rest.head?, ¬isDigitByte b := fun b hb => (hrest b hb).1
    rw [hsome]
    simp only [List.cons_append, takeWhile_digits hdigits.isDigit hdigit,
      dropWhile_digits hdigits.isDigit hdigit, hne, hmicros]
    exact congrArg (Option.map (·, rest)) (hclock _)

end Times

/-! ### Instants -/

/-- The text of a day with a time of day, and an offset behind it, is read as an instant. -/
theorem reads_instant {days : Int} (hdays : HasFourDigitYear days) {micros : Nat}
    (hmicros : micros < 86400000000) {zone : String} {offset : Int}
    (hzone : SpellsOffset zone offset) :
    let text := (Civil.ofDayNumber days).text ++ "T" ++ timeText micros ++ zone
    let seconds := days * secondsPerDay + (micros / 1000000 : Nat) - offset
    instant? text = .ok ⟨seconds, micros % 1000000⟩ ∧ date? text = some (seconds / 86400) := by
  intro text seconds
  have hmark : Utf8.bytes "T" = [84] := by decide
  have hbytes : Utf8.bytes text = Utf8.bytes (Civil.ofDayNumber days).text ++
      84 :: (Utf8.bytes (timeText micros) ++ Utf8.bytes zone) := by
    rw [Utf8.bytes_append, Utf8.bytes_append, Utf8.bytes_append, hmark]
    simp
  obtain ⟨hfits, hdate, hrest⟩ :=
    reads_date hdays (84 :: (Utf8.bytes (timeText micros) ++ Utf8.bytes zone))
  rw [← hbytes] at hfits hdate hrest
  have hlength : 10 < (Utf8.bytes text).length := by
    rw [hbytes, List.length_append, length_bytes_text hdays, List.length_cons]
    omega
  have hend : text.toList.drop ((Utf8.bytes text).length - (Utf8.bytes zone).length) =
      zone.toList := by
    refine Utf8.drop_toList_append ?_
    rw [Utf8.bytes_append, Utf8.bytes_append, hmark, List.forall_mem_append,
      List.forall_mem_append]
    exact ⟨⟨lt_of_mem_text hdays, List.forall_mem_singleton.2 (by decide)⟩,
      lt_of_mem_timeText hmicros⟩
  have hinstant : instant? text = .ok ⟨seconds, micros % 1000000⟩ := by
    have hseparator : isSeparator 84 = true := by decide
    rw [instant?_of_date rfl (by omega) hfits hdate, hrest]
    simp only [hseparator, time?_timeText hmicros hzone.head, hend, hzone.read]
    rfl
  refine ⟨hinstant, ?_⟩
  rw [date?_of_long rfl hlength, hinstant]
  rfl

/-- The local time of an instant with the offset behind it is read as the instant, and as its day in
universal time. -/
theorem exists_instant {t offset : Int} {zone : String} (hzone : SpellsOffset zone offset)
    (h : HasFourDigitYear ((t + offset * microsPerSecond) / microsPerDay)) :
    let here := t + offset * microsPerSecond
    let text := (Civil.ofDayNumber (here / microsPerDay)).text ++ "T" ++
      timeText (here % microsPerDay).toNat ++ zone
    ∃ instant, instant? text = .ok instant ∧ instant.toMicros = t ∧
      date? text = some (t / microsPerDay) := by
  have hunit : microsPerDay = 86400000000 := rfl
  have hsecond : microsPerSecond = 1000000 := rfl
  generalize hhere : t + offset * microsPerSecond = here at h ⊢
  rw [hsecond] at hhere
  have hmicros : (here % microsPerDay).toNat < 86400000000 := by
    rw [hunit]
    omega
  obtain ⟨hinstant, hdate⟩ := reads_instant h hmicros hzone
  have hsplit : here / microsPerDay * 86400000000 + (here % microsPerDay).toNat = here := by
    rw [hunit]
    omega
  have hday : (here / microsPerDay * 86400 + ((here % microsPerDay).toNat / 1000000 : Nat) -
      offset) / 86400 = t / microsPerDay := by
    rw [hunit] at hsplit ⊢
    omega
  refine ⟨_, hinstant, ?_, hdate.trans (congrArg some hday)⟩
  simp only [Instant.toMicros, secondsPerDay, hsecond]
  omega

/-- The text of an instant is read as the instant and as its day. -/
theorem exists_instantText {t : Int} (h : HasFourDigitYear (t / microsPerDay)) :
    ∃ text instant, instantText? t = some text ∧ instant? text = .ok instant ∧
      instant.toMicros = t ∧ date? text = some (t / microsPerDay) := by
  have hhere : t + 0 * microsPerSecond = t := by omega
  obtain ⟨instant, hinstant, hmicros, hdate⟩ :=
    @exists_instant t 0 "" spellsOffset_empty (hhere.symm ▸ h)
  rw [hhere, String.append_empty] at hinstant hdate
  refine ⟨_, instant, ?_, hinstant, hmicros, hdate⟩
  rw [instantText?, dateText?_eq h]
  rfl

/-- An instant whose local time has a year of four digits can be shown in universal time. -/
theorem IsOffset.isShown {t offset : Int} (hoffset : IsOffset offset)
    (h : HasFourDigitYear ((t + offset * microsPerSecond) / microsPerDay)) :
    IsShown (t / microsPerDay) := by
  have hunit : microsPerDay = 86400000000 := rfl
  have hsecond : microsPerSecond = 1000000 := rfl
  have hlt := hoffset.lt
  rw [hasFourDigitYear_iff, dayNumber_first_of_0000, dayNumber_last_of_9999, hunit, hsecond] at h
  rw [IsShown, dayNumber_first_shown, dayNumber_end_shown, hunit]
  omega

/-- The text of an instant at an offset from universal time is read as the instant, and as its day
in universal time. -/
theorem exists_localText {t offset : Int} (hoffset : IsOffset offset)
    (h : HasFourDigitYear ((t + offset * microsPerSecond) / microsPerDay)) :
    ∃ text instant, localText? offset t = some text ∧ instant? text = .ok instant ∧
      instant.toMicros = t ∧ date? text = some (t / microsPerDay) := by
  obtain ⟨instant, hread⟩ := exists_instant (spellsOffset_zoneText hoffset) h
  exact ⟨_, instant, if_pos (isShowable_ofDayNumber_iff.2 (hoffset.isShown h)), hread⟩

example : instantText? (-1) = some "1969-12-31T23:59:59.999999" := by decide

end ColumnDispatch.Calendar
