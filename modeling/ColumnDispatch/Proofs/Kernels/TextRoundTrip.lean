import ColumnDispatch.Proofs.Calendar.ReadBack
import ColumnDispatch.Proofs.Kernels.DayCasts

/-! Casts to text and back. What the calendar and the numerals keep through a text, the rows of a
batch keep, and with them the casts: reading the written values gives them back, and a date or an
instant that is read from a text as the other one is what a direct cast makes of it. Timestamps that
still have a time zone come back without it, and the day of their text is that of universal time.
Main statement: `Registry.casts_through_text`. -/

namespace ColumnDispatch

open Calendar

namespace Kernel

/-! ### Values -/

theorem readInt64_toString (n : Int64) : readInt64 (toString n.toInt) = .ok n := by
  have hword : Checked.int64? n.toInt = some n := Checked.int64?_eq_some_iff.2 rfl
  rw [readInt64, Decimal.integer?_toString, Option.bind_some, hword]

theorem readBool_writeBool (b : Bool) : readBool (writeBool b) = .ok b := by
  cases b <;> rfl

theorem writeDate_of_some {day : Int32} {text : String} (h : dateText? day.toInt = some text) :
    writeDate day = .ok text := by
  unfold writeDate
  simp only [h]

theorem writeTimestamp_of_some {t : Int64} {text : String}
    (h : instantText? t.toInt = some text) : writeTimestamp t = .ok text := by
  unfold writeTimestamp
  simp only [h]

/-- A day is written so that it is read back, and so that it is read as its start. -/
theorem exists_writeDate {day : Int32} (h : HasFourDigitYear day.toInt) :
    ∃ text, writeDate day = .ok text ∧ readDate text = .ok day ∧
      readTimestamp text = .ok (timestampOfDay day) := by
  have hday : Checked.int32? day.toInt = some day := by
    rw [Checked.int32?_eq_some day.le_toInt day.toInt_lt, Int32.ofInt_toInt]
  have hmicros : Instant.toMicros ⟨day.toInt * secondsPerDay, 0⟩ = day.toInt * microsPerDay := by
    simp only [Instant.toMicros, secondsPerDay, microsPerDay, microsPerSecond]
    omega
  refine ⟨(Civil.ofDayNumber day.toInt).text, writeDate_of_some (dateText?_eq h), ?_, ?_⟩
  · rw [readDate, date?_text h, Option.bind_some, hday]
  · rw [readTimestamp, instant?_text h, timestampOfDay, ← hmicros]

theorem readTimestamp_of_instant? {text : String} {instant : Instant} {t : Int64}
    (h : instant? text = .ok instant) (hmicros : instant.toMicros = t.toInt) :
    readTimestamp text = .ok t := by
  rw [readTimestamp, h]
  exact congrArg Except.ok ((congrArg Int64.ofInt hmicros).trans (Int64.ofInt_toInt t))

/-- A text that names the day of an instant is read as what the instant is cast to. -/
theorem readDate_of_date? {text : String} {t : Int64}
    (h : date? text = some (t.toInt / microsPerDay)) (hshown : IsShown (t.toInt / microsPerDay)) :
    readDate text = dayOfTimestamp t := by
  rw [dayOfTimestamp_eq, if_pos hshown]
  rw [IsShown, dayNumber_first_shown, dayNumber_end_shown] at hshown
  have hday : Checked.int32? (t.toInt / microsPerDay) =
      some (Int32.ofInt (t.toInt / microsPerDay)) := Checked.int32?_eq_some (by omega) (by omega)
  rw [readDate, h, Option.bind_some, hday]

/-- An instant is written so that it is read back, and so that it is read as its day. -/
theorem exists_writeTimestamp {t : Int64} (h : HasFourDigitYear (t.toInt / microsPerDay)) :
    ∃ text day, writeTimestamp t = .ok text ∧ readTimestamp text = .ok t ∧
      dayOfTimestamp t = .ok day ∧ readDate text = .ok day := by
  obtain ⟨text, instant, htext, hinstant, hmicros, hdate⟩ := exists_instantText h
  have hshown : IsShown (t.toInt / microsPerDay) :=
    isShowable_ofDayNumber_iff.1 (isShowable_ofDayNumber h)
  have hday : dayOfTimestamp t = .ok (Int32.ofInt (t.toInt / microsPerDay)) :=
    (dayOfTimestamp_eq t).trans (if_pos hshown)
  exact ⟨text, _, writeTimestamp_of_some htext, readTimestamp_of_instant? hinstant hmicros, hday,
    (readDate_of_date? hdate hshown).trans hday⟩

/-- The day that an instant falls on at an offset from universal time. -/
def dayAt (offset : Int) (t : Int64) : Int32 :=
  .ofInt ((t.toInt + offset * microsPerSecond) / microsPerDay)

/-- An instant with a time zone is written so that it is read back, and so that it is read as its
day in universal time. It is cast to its day in local time. -/
theorem exists_writeLocal (zone : String) {offset : Int} (hoffset : IsOffset offset) {t : Int64}
    (h : HasFourDigitYear ((t.toInt + offset * microsPerSecond) / microsPerDay)) :
    ∃ text, writeLocal zone offset t = .ok text ∧ readTimestamp text = .ok t ∧
      readDate text = .ok (dayAt 0 t) ∧ localDay offset t = .ok (dayAt offset t) := by
  obtain ⟨text, instant, htext, hinstant, hmicros, hdate⟩ := exists_localText hoffset h
  have hshown := hoffset.isShown h
  have hwrite : writeLocal zone offset t = .ok text := by
    unfold writeLocal
    simp only [htext]
  have hday : dayOfTimestamp t = .ok (dayAt 0 t) := by
    rw [dayOfTimestamp_eq, if_pos hshown, dayAt, Int.zero_mul, Int.add_zero]
  refine ⟨text, hwrite, readTimestamp_of_instant? hinstant hmicros,
    (readDate_of_date? hdate hshown).trans hday, ?_⟩
  rw [localDay, hday]
  rfl

/-! ### Casts by way of another type -/

section Via

variable {s : Storage} {type via target : LogicalType} {cells : List (Option s.Cell)}
  {f : s.Cell → Except Failure via.storage.Cell} (hne : s ≠ via.storage)
  (hf : conversion? s via = some (.ok f))

include hne hf

theorem exists_castBatch (h : ∀ a, some a ∈ cells → ∃ b, f a = .ok b) :
    ∃ middle, castBatch via ⟨type, ⟨s, cells⟩⟩ = .ok (.ofCells via middle) := by
  obtain ⟨middle, hmiddle⟩ := exists_eachRow_onPresent h
  refine ⟨middle, ?_⟩
  rw [castBatch_of_conversion hne hf, hmiddle]
  rfl

/-- Two casts do to a column what their conversions do to its values. -/
theorem castBatch_via {g : via.storage.Cell → Except Failure target.storage.Cell}
    {k : s.Cell → Except Failure target.storage.Cell}
    (hne' : via.storage ≠ target.storage) (hg : conversion? via.storage target = some (.ok g))
    (h : ∀ a, some a ∈ cells → ∃ b, f a = .ok b ∧ g b = k a) {v : Batch}
    (hv : castBatch via ⟨type, ⟨s, cells⟩⟩ = .ok v) :
    castBatch target v = (eachRow (onPresent k) cells).map (.ofCells target) := by
  rw [castBatch_of_conversion hne hf] at hv
  obtain ⟨middle, hmiddle, rfl⟩ := except_map_eq_ok_iff.1 hv
  rw [castBatch_ofCells hne' hg]
  congr 1
  refine eachRow_onPresent_congr hmiddle fun a ha b hb => ?_
  obtain ⟨b', hb', hvalue⟩ := h a ha
  obtain rfl : b' = b := Except.ok.inj (hb'.symm.trans hb)
  exact hvalue

/-- Conversions that agree with a direct one by way of another type do so for a column. -/
theorem castBatch_commutes {g : via.storage.Cell → Except Failure target.storage.Cell}
    {k : s.Cell → Except Failure target.storage.Cell}
    (hne' : via.storage ≠ target.storage) (hdirect : s ≠ target.storage)
    (hg : conversion? via.storage target = some (.ok g))
    (hk : conversion? s target = some (.ok k))
    (h : ∀ a, some a ∈ cells → ∃ b, f a = .ok b ∧ g b = k a) {v : Batch}
    (hv : castBatch via ⟨type, ⟨s, cells⟩⟩ = .ok v) :
    castBatch target v = castBatch target ⟨type, ⟨s, cells⟩⟩ := by
  rw [castBatch_via hne hf hne' hg h hv, castBatch_of_conversion hdirect hk]

end Via

/-- Conversions there and back give the column back. -/
theorem exists_castBatch_back {source via : LogicalType}
    {cells : List (Option source.storage.Cell)}
    {f : source.storage.Cell → Except Failure via.storage.Cell}
    {g : via.storage.Cell → Except Failure source.storage.Cell}
    (hne : source.storage ≠ via.storage) (hf : conversion? source.storage via = some (.ok f))
    (hg : conversion? via.storage source = some (.ok g))
    (h : ∀ a, some a ∈ cells → ∃ b, f a = .ok b ∧ g b = .ok a) :
    ∃ middle, castBatch via (.ofCells source cells) = .ok (.ofCells via middle) ∧
      castBatch source (.ofCells via middle) = .ok (.ofCells source cells) := by
  have hthere (a : source.storage.Cell) (ha : some a ∈ cells) : ∃ b, f a = .ok b := by
    obtain ⟨b, hb, -⟩ := h a ha
    exact ⟨b, hb⟩
  obtain ⟨middle, hmiddle⟩ := exists_castBatch hne hf hthere
  refine ⟨middle, hmiddle, ?_⟩
  rw [castBatch_via hne hf hne.symm hg h hmiddle, eachRow_onPresent_self]
  rfl

/-! ### Casts by way of texts -/

/-- Dates come back from their texts, and become instants as their texts do. -/
theorem castBatch_dates {cells : List (Option Int32)}
    (h : ∀ day, some day ∈ cells → HasFourDigitYear day.toInt) :
    ∃ texts instants,
      castBatch .string (.ofCells .date cells) = .ok (.ofCells .string texts) ∧
      castBatch .date (.ofCells .string texts) = .ok (.ofCells .date cells) ∧
      castBatch .timestamp (.ofCells .date cells) = .ok (.ofCells .timestamp instants) ∧
      castBatch .timestamp (.ofCells .string texts) = .ok (.ofCells .timestamp instants) := by
  have hne : LogicalType.date.storage ≠ LogicalType.string.storage := by decide
  have hne' : LogicalType.date.storage ≠ LogicalType.timestamp.storage := by decide
  have hread (day : Int32) (hday : some day ∈ cells) :
      ∃ text, writeDate day = .ok text ∧ readDate text = .ok day := by
    obtain ⟨text, hwrite, hread, -⟩ := exists_writeDate (h day hday)
    exact ⟨text, hwrite, hread⟩
  have hstart (day : Int32) (hday : some day ∈ cells) : ∃ text, writeDate day = .ok text ∧
      readTimestamp text = .ok (timestampOfDay day) := by
    obtain ⟨text, hwrite, -, hread⟩ := exists_writeDate (h day hday)
    exact ⟨text, hwrite, hread⟩
  obtain ⟨texts, htexts, hback⟩ := exists_castBatch_back hne rfl rfl hread
  have hinstants : castBatch .timestamp (.ofCells .date cells) =
      .ok (.ofCells .timestamp (cells.map (·.map timestampOfDay))) :=
    (castBatch_ofCells hne' rfl cells).trans
      (congrArg (Except.map _) (eachRow_onPresent_ok timestampOfDay cells))
  have hvia : castBatch .timestamp (.ofCells .string texts) =
      castBatch .timestamp (.ofCells .date cells) :=
    castBatch_commutes hne rfl (by decide) hne' rfl rfl hstart htexts
  exact ⟨texts, _, htexts, hback, hinstants, hvia.trans hinstants⟩

/-- Instants come back from their texts, and become dates as their texts do. -/
theorem castBatch_instants {cells : List (Option Int64)}
    (h : ∀ t, some t ∈ cells → HasFourDigitYear (t.toInt / microsPerDay)) :
    ∃ texts days,
      castBatch .string (.ofCells .timestamp cells) = .ok (.ofCells .string texts) ∧
      castBatch .timestamp (.ofCells .string texts) = .ok (.ofCells .timestamp cells) ∧
      castBatch .date (.ofCells .timestamp cells) = .ok (.ofCells .date days) ∧
      castBatch .date (.ofCells .string texts) = .ok (.ofCells .date days) := by
  have hne : LogicalType.timestamp.storage ≠ LogicalType.string.storage := by decide
  have hne' : LogicalType.timestamp.storage ≠ LogicalType.date.storage := by decide
  have hread (t : Int64) (ht : some t ∈ cells) :
      ∃ text, writeTimestamp t = .ok text ∧ readTimestamp text = .ok t := by
    obtain ⟨text, -, hwrite, hread, -⟩ := exists_writeTimestamp (h t ht)
    exact ⟨text, hwrite, hread⟩
  have hday (t : Int64) (ht : some t ∈ cells) : ∃ text, writeTimestamp t = .ok text ∧
      readDate text = dayOfTimestamp t := by
    obtain ⟨text, day, hwrite, -, hday, hread⟩ := exists_writeTimestamp (h t ht)
    exact ⟨text, hwrite, hread.trans hday.symm⟩
  have hdays (t : Int64) (ht : some t ∈ cells) : ∃ day, dayOfTimestamp t = .ok day := by
    obtain ⟨-, day, -, -, hday, -⟩ := exists_writeTimestamp (h t ht)
    exact ⟨day, hday⟩
  obtain ⟨texts, htexts, hback⟩ := exists_castBatch_back hne rfl rfl hread
  obtain ⟨days, hdates⟩ := exists_castBatch hne' rfl hdays
  have hvia : castBatch .date (.ofCells .string texts) =
      castBatch .date (.ofCells .timestamp cells) :=
    castBatch_commutes hne rfl (by decide) hne' rfl rfl hday htexts
  exact ⟨texts, days, htexts, hback, hdates, hvia.trans hdates⟩

/-! ### Time zones -/

section Zoned

variable {zone : String} {offset : Int} (hzone : readZone zone = .ok offset)

include hzone

theorem isOffset_of_readZone : IsOffset offset := by
  unfold readZone at hzone
  split at hzone
  · next hoffset =>
    obtain rfl := Except.ok.inj hzone
    exact isOffset_of_zoneOffset? hoffset
  · cases hzone

variable {cells : List (Option Int64)} (h : ∀ t, some t ∈ cells →
  HasFourDigitYear ((t.toInt + offset * microsPerSecond) / microsPerDay))

include h

/-- Instants with a time zone are cast to their days in local time. -/
theorem castBatch_date_zoned :
    castBatch .date (.ofTimestamps (some zone) cells) =
      .ok (.ofDays (cells.map (·.map (dayAt offset)))) := by
  have hconversion : conversion? (.timestamp .microsecond (some zone)) .date =
      some (.ok (localDay offset)) := conversion?_date_zoned hzone
  have hdays : eachRow (onPresent (localDay offset)) cells =
      .ok (cells.map (·.map (dayAt offset))) := by
    refine eachRow_onPresent_eq_ok_iff.2 (related_map fun t ht => ?_)
    obtain ⟨-, -, -, -, hday⟩ := exists_writeLocal zone (isOffset_of_readZone hzone) (h t ht)
    exact hday
  exact (castBatch_of_conversion (zoned_ne_storage zone .date) hconversion .timestamp cells).trans
    (congrArg (Except.map Batch.ofDays) hdays)

/-- They come back from their texts without the time zone, and the days of the texts are those in
universal time. -/
theorem castBatch_zonedTexts :
    ∃ texts, castBatch .string (.ofTimestamps (some zone) cells) = .ok (.ofCells .string texts) ∧
      castBatch .timestamp (.ofCells .string texts) = .ok (.ofTimestamps none cells) ∧
      castBatch .date (.ofCells .string texts) = .ok (.ofDays (cells.map (·.map (dayAt 0)))) := by
  have hne := zoned_ne_storage zone .string
  have htimestamp : LogicalType.string.storage ≠ LogicalType.timestamp.storage := by decide
  have hdate : LogicalType.string.storage ≠ LogicalType.date.storage := by decide
  have hf : conversion? (.timestamp .microsecond (some zone)) .string =
      some (.ok (writeLocal zone offset)) := conversion?_string_zoned hzone
  have hoffset := isOffset_of_readZone hzone
  have hwrite (t : Int64) (ht : some t ∈ cells) : ∃ text, writeLocal zone offset t = .ok text := by
    obtain ⟨text, hwrite, -⟩ := exists_writeLocal zone hoffset (h t ht)
    exact ⟨text, hwrite⟩
  have hread (t : Int64) (ht : some t ∈ cells) : ∃ text, writeLocal zone offset t = .ok text ∧
      readTimestamp text = .ok t := by
    obtain ⟨text, hwrite, hread, -⟩ := exists_writeLocal zone hoffset (h t ht)
    exact ⟨text, hwrite, hread⟩
  have hday (t : Int64) (ht : some t ∈ cells) : ∃ text, writeLocal zone offset t = .ok text ∧
      readDate text = .ok (dayAt 0 t) := by
    obtain ⟨text, hwrite, -, hday, -⟩ := exists_writeLocal zone hoffset (h t ht)
    exact ⟨text, hwrite, hday⟩
  obtain ⟨texts, htexts⟩ : ∃ texts,
      castBatch .string (.ofTimestamps (some zone) cells) = .ok (.ofCells .string texts) :=
    exists_castBatch hne hf hwrite
  have hback : castBatch .timestamp (.ofCells .string texts) =
      (eachRow (onPresent .ok) cells).map (.ofTimestamps none) :=
    castBatch_via hne hf htimestamp rfl hread htexts
  have hdays : castBatch .date (.ofCells .string texts) =
      (eachRow (onPresent fun t => .ok (dayAt 0 t)) cells).map .ofDays :=
    castBatch_via hne hf hdate rfl hday htexts
  rw [eachRow_onPresent_self] at hback
  rw [eachRow_onPresent_ok] at hdays
  exact ⟨texts, htexts, hback, hdays⟩

end Zoned

end Kernel

namespace Registry

open Kernel

/-- Canonical batches of integers, of truth values, and of the days and instants of the years 0000
to 9999 can be cast to text, and the text back. In those years the day of a text is that of the
instant it was made from, and the instant of a text is the start of the day it was made from.
Instants with a time zone whose local time is in those years come back without it; the day of their
text is the one in universal time, where a direct cast gives the one in local time. -/
theorem casts_through_text (columns : LogicalType → Column) :
    let cast (target : LogicalType) (b : Batch) :=
      (builtin.invoke (.binary .cast b ⟨target, columns target⟩)).result
    (∀ cells : List (Option Int64), ∃ text,
      cast .string (.ofCells .int64 cells) = .ok text ∧
      cast .int64 text = .ok (.ofCells .int64 cells)) ∧
    (∀ cells : List (Option Bool), ∃ text,
      cast .string (.ofCells .bool cells) = .ok text ∧
      cast .bool text = .ok (.ofCells .bool cells)) ∧
    (∀ cells : List (Option Int32), (∀ day, some day ∈ cells → HasFourDigitYear day.toInt) →
      ∃ text instants,
        cast .string (.ofCells .date cells) = .ok text ∧
        cast .date text = .ok (.ofCells .date cells) ∧
        cast .timestamp (.ofCells .date cells) = .ok instants ∧
        cast .timestamp text = .ok instants) ∧
    (∀ cells : List (Option Int64),
      (∀ t, some t ∈ cells → HasFourDigitYear (t.toInt / microsPerDay)) →
      ∃ text days,
        cast .string (.ofCells .timestamp cells) = .ok text ∧
        cast .timestamp text = .ok (.ofCells .timestamp cells) ∧
        cast .date (.ofCells .timestamp cells) = .ok days ∧
        cast .date text = .ok days) ∧
    ∀ zone offset, readZone zone = .ok offset → ∀ cells : List (Option Int64),
      (∀ t, some t ∈ cells →
        HasFourDigitYear ((t.toInt + offset * microsPerSecond) / microsPerDay)) →
      ∃ text,
        cast .string (.ofTimestamps (some zone) cells) = .ok text ∧
        cast .timestamp text = .ok (.ofTimestamps none cells) ∧
        cast .date (.ofTimestamps (some zone) cells) =
          .ok (.ofDays (cells.map (·.map (dayAt offset)))) ∧
        cast .date text = .ok (.ofDays (cells.map (·.map (dayAt 0)))) := by
  intro cast
  have hcast (source : LogicalType) {target : LogicalType}
      (cells : List (Option source.storage.Cell)) (h : Builtin.isCastable source target) :
      cast target (.ofCells source cells) = castBatch target (.ofCells source cells) :=
    invoke_cast (l := .ofCells source cells) rfl h
  refine ⟨fun cells => ?_, fun cells => ?_, fun cells hdays => ?_, fun cells hinstants => ?_,
    fun zone offset hzone cells hlocal => ?_⟩
  · obtain ⟨texts, htexts, hback⟩ := @exists_castBatch_back .int64 .string cells _ readInt64
      (by decide) rfl rfl fun n _ => ⟨_, rfl, readInt64_toString n⟩
    exact ⟨_, (hcast .int64 cells rfl).trans htexts, (hcast .string texts rfl).trans hback⟩
  · obtain ⟨texts, htexts, hback⟩ := @exists_castBatch_back .bool .string cells _ readBool
      (by decide) rfl rfl fun b _ => ⟨_, rfl, readBool_writeBool b⟩
    exact ⟨_, (hcast .bool cells rfl).trans htexts, (hcast .string texts rfl).trans hback⟩
  · obtain ⟨texts, instants, htexts, hback, hdirect, hvia⟩ := castBatch_dates hdays
    exact ⟨_, _, (hcast .date cells rfl).trans htexts, (hcast .string texts rfl).trans hback,
      (hcast .date cells rfl).trans hdirect, (hcast .string texts rfl).trans hvia⟩
  · obtain ⟨texts, days, htexts, hback, hdirect, hvia⟩ := castBatch_instants hinstants
    exact ⟨_, _, (hcast .timestamp cells rfl).trans htexts, (hcast .string texts rfl).trans hback,
      (hcast .timestamp cells rfl).trans hdirect, (hcast .string texts rfl).trans hvia⟩
  · obtain ⟨texts, htexts, hback, hdays⟩ := castBatch_zonedTexts hzone hlocal
    exact ⟨_, invoke_cast_of_eq rfl htexts rfl, (hcast .string texts rfl).trans hback,
      invoke_cast_of_eq rfl (castBatch_date_zoned hzone hlocal) rfl,
      (hcast .string texts rfl).trans hdays⟩

/-- The first and the last instant of those years, with a null between them. -/
theorem casts_through_text_of_bounds :
    (HasFourDigitYear ((-62167219200000000 : Int64).toInt / microsPerDay) ∧
      HasFourDigitYear ((253402300799999999 : Int64).toInt / microsPerDay)) ∧
    ∃ text days,
      (builtin.invoke (.binary .cast (.ofTimestamps none
        [some (-62167219200000000), none, some 253402300799999999]) (.empty .string))).result =
          .ok text ∧
      (builtin.invoke (.binary .cast text (.empty .timestamp))).result =
        .ok (.ofTimestamps none [some (-62167219200000000), none, some 253402300799999999]) ∧
      (builtin.invoke (.binary .cast (.ofTimestamps none
        [some (-62167219200000000), none, some 253402300799999999]) (.empty .date))).result =
          .ok days ∧
      (builtin.invoke (.binary .cast text (.empty .date))).result = .ok days := by
  have hfirst : HasFourDigitYear ((-62167219200000000 : Int64).toInt / microsPerDay) := by decide
  have hlast : HasFourDigitYear ((253402300799999999 : Int64).toInt / microsPerDay) := by decide
  refine ⟨⟨hfirst, hlast⟩, ?_⟩
  obtain ⟨-, -, -, hinstants, -⟩ := casts_through_text fun t => .empty t.storage
  refine hinstants [some (-62167219200000000), none, some 253402300799999999] fun t ht => ?_
  simp only [List.mem_cons, Option.some.injEq, List.not_mem_nil, or_false, reduceCtorEq,
    false_or] at ht
  rcases ht with rfl | rfl
  · exact hfirst
  · exact hlast

/-- The instant that is midnight of 2 January 1970 two hours east comes back from its text without
the time zone, and its text is read as 1 January, not as the day that a direct cast gives. -/
theorem zoned_texts_read_otherwise :
    let cast (target : LogicalType) (b : Batch) :=
      (builtin.invoke (.binary .cast b (.empty target))).result
    let zoned : Batch := .ofTimestamps (some "+02:00") [some 79200000000]
    let text : Batch := .ofCells .string [some "1970-01-02T00:00:00+02:00"]
    HasFourDigitYear ((79200000000 : Int64).toInt / microsPerDay) ∧
      cast .string zoned = .ok text ∧
      cast .timestamp text = .ok (.ofTimestamps none [some 79200000000]) ∧
      cast .timestamp text ≠ .ok zoned ∧
      cast .date zoned = .ok (.ofCells .date [some (1 : Int32)]) ∧
      cast .date text = .ok (.ofCells .date [some (0 : Int32)]) := by
  intro cast zoned text
  have hback : cast .timestamp text = .ok (.ofTimestamps none [some 79200000000]) :=
    invoke_cast_of_eq rfl rfl rfl
  refine ⟨by decide, invoke_cast_of_eq rfl rfl rfl, hback, fun hsame => ?_,
    invoke_cast_of_eq rfl rfl rfl, invoke_cast_of_eq rfl rfl rfl⟩
  have hstorage := congrArg (·.column.storage) (Except.ok.inj (hback.symm.trans hsame))
  cases hstorage

end Registry

end ColumnDispatch
