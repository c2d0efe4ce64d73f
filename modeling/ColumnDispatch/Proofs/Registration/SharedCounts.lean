import ColumnDispatch.Power
import ColumnDispatch.Signature

/-! Argument counts that two ranges share. They form a range again, from the larger of the least
counts to the smaller of the greatest ones, and the comparison that registration makes asks whether
the bounds of that range are in order. A range with its bounds in order accepts its least count and
one with its bounds crossed accepts nothing, so ranges overlap exactly when they share a count, and
variadic signatures conflict exactly when some call fits both. The least shared count is one of the
bounds: none has to be looked for beyond the numbers that the bounds are drawn from. -/

namespace ColumnDispatch

namespace Arity

variable {a b : Arity} {n limit : Nat}

/-! ### Ranges that accept a count -/

theorem isValid_of_contains (h : a.contains n) : a.isValid := by
  obtain ⟨hmin, hmax⟩ := contains_iff.1 h
  exact isValid_iff.2 fun m hm => Nat.le_trans hmin (hmax m hm)

theorem isValid_iff_exists : a.isValid ↔ ∃ n, a.contains n :=
  ⟨fun h => ⟨a.min, contains_min h⟩, fun ⟨_, h⟩ => isValid_of_contains h⟩

/-- A range that accepts a count accepts one below any limit that its least count is below. -/
theorem exists_lt_contains_iff (h : a.min < limit) :
    (∃ n < limit, a.contains n) ↔ ∃ n, a.contains n := by
  constructor
  · rintro ⟨n, -, hn⟩
    exact ⟨n, hn⟩
  · rintro ⟨n, hn⟩
    -- the given count need not be below the limit, but then the least one is accepted too
    exact ⟨a.min, h, contains_min (isValid_of_contains hn)⟩

/-! ### The shared range -/

/-- The counts in both ranges; the bounds are crossed if there are none. -/
instance : Inter Arity := ⟨fun a b => ⟨Nat.max a.min b.min, Option.merge Nat.min a.max b.max⟩⟩

theorem min_inter (a b : Arity) : (a ∩ b).min = Nat.max a.min b.min := rfl

theorem max_inter (a b : Arity) : (a ∩ b).max = Option.merge Nat.min a.max b.max := rfl

/-- A number is within the greatest shared count exactly when it is within both greatest counts. -/
theorem forall_max_inter_iff :
    (∀ m ∈ (a ∩ b).max, n ≤ m) ↔ (∀ m ∈ a.max, n ≤ m) ∧ ∀ m ∈ b.max, n ≤ m := by
  rw [max_inter]
  cases a.max with
  | none => cases b.max <;> simp
  | some p =>
    cases b.max with
    | none => simp
    | some q =>
      have hboth : n ≤ Nat.min p q ↔ n ≤ p ∧ n ≤ q := Nat.le_min
      simpa only [Option.merge_some_some, Option.mem_some, forall_eq'] using hboth

theorem contains_inter_iff : (a ∩ b).contains n ↔ a.contains n ∧ b.contains n := by
  simp only [contains_iff, min_inter, forall_max_inter_iff, Nat.max_le]
  exact and_and_and_comm

theorem inter_comm (a b : Arity) : a ∩ b = b ∩ a := by
  apply Arity.ext
  · exact Nat.max_comm a.min b.min
  · rw [max_inter, max_inter]
    cases a.max <;> cases b.max <;> simp [Nat.min_comm]

theorem inter_self (a : Arity) : a ∩ a = a := by
  apply Arity.ext
  · exact Nat.max_self a.min
  · rw [max_inter]
    cases a.max <;> simp

/-! ### Overlap -/

theorem overlaps_eq_isValid_inter (a b : Arity) : a.overlaps b = (a ∩ b).isValid := by
  rw [Bool.eq_iff_iff, isValid_iff, forall_max_inter_iff]
  simp [overlaps, Option.all_eq_true, min_inter]

theorem overlaps_comm (a b : Arity) : a.overlaps b = b.overlaps a := by
  rw [overlaps_eq_isValid_inter, overlaps_eq_isValid_inter, inter_comm]

theorem overlaps_self (a : Arity) : a.overlaps a = a.isValid := by
  rw [overlaps_eq_isValid_inter, inter_self]

theorem overlaps_iff_exists : a.overlaps b ↔ ∃ n, a.contains n ∧ b.contains n := by
  rw [overlaps_eq_isValid_inter, isValid_iff_exists]
  simp only [contains_inter_iff]

theorem overlaps_iff_exists_lt (ha : a.min < limit) (hb : b.min < limit) :
    a.overlaps b ↔ ∃ n < limit, a.contains n ∧ b.contains n := by
  have hmin : (a ∩ b).min < limit := Nat.max_lt.2 ⟨ha, hb⟩
  rw [overlaps_eq_isValid_inter, isValid_iff_exists, ← exists_lt_contains_iff hmin]
  simp only [contains_inter_iff]

/-- Of two ranges that share no count, the one that starts first ends below the other. -/
theorem exists_max_lt_min (hb : b.isValid) (hle : a.min ≤ b.min)
    (hapart : ¬(a.contains b.min ∧ b.contains b.min)) : ∃ m ∈ a.max, m < b.min := by
  have hmin := contains_min hb
  have ha : ¬∀ m ∈ a.max, b.min ≤ m := fun hmax => hapart ⟨contains_iff.2 ⟨hle, hmax⟩, hmin⟩
  simpa using ha

end Arity

/-! ### Conflict -/

namespace VariadicSignature

variable {s t : VariadicSignature} {limit : Nat}

theorem conflicts_comm (s t : VariadicSignature) :
    Signature.conflicts s t = Signature.conflicts t s := by
  simp only [Signature.conflicts, Arity.overlaps_comm s.arity, eq_comm (a := s.operand)]

theorem conflicts_self_iff : Signature.conflicts s s ↔ s.arity.isValid := by
  simp only [Signature.conflicts, Arity.overlaps_self, decide_true, Bool.true_and]

theorem conflicts_iff_overlaps :
    Signature.conflicts s t ↔ s.operand = t.operand ∧ s.arity.overlaps t.arity := by
  simp only [Signature.conflicts, Bool.and_eq_true, decide_eq_true_eq]

theorem conflicts_iff_exists_count :
    Signature.conflicts s t ↔
      s.operand = t.operand ∧ ∃ count, s.arity.contains count ∧ t.arity.contains count := by
  rw [conflicts_iff_overlaps, Arity.overlaps_iff_exists]

/-- A call with some number of arguments fits both signatures for at most one type. -/
theorem exists_accepts_iff {count : Nat} :
    (∃ operand, s.accepts operand count ∧ t.accepts operand count) ↔
      s.operand = t.operand ∧ s.arity.contains count ∧ t.arity.contains count := by
  simp only [accepts, Bool.and_eq_true, decide_eq_true_eq]
  constructor
  · rintro ⟨operand, ⟨rfl, hs⟩, ht, ht'⟩
    exact ⟨ht.symm, hs, ht'⟩
  · rintro ⟨h, hs, ht⟩
    exact ⟨s.operand, ⟨rfl, hs⟩, h.symm, ht⟩

/-- Signatures conflict exactly when some call is accepted by both. -/
theorem conflicts_iff :
    Signature.conflicts s t ↔
      ∃ operand count, s.accepts operand count ∧ t.accepts operand count := by
  rw [conflicts_iff_exists_count, exists_comm]
  simp only [exists_accepts_iff, exists_and_left]

theorem conflicts_iff_exists_lt (hs : s.arity.min < limit) (ht : t.arity.min < limit) :
    Signature.conflicts s t ↔
      ∃ operand, ∃ count < limit, s.accepts operand count ∧ t.accepts operand count := by
  rw [conflicts_iff_overlaps, Arity.overlaps_iff_exists_lt hs ht, exists_comm]
  simp only [exists_and_left, exists_accepts_iff]
  constructor
  · rintro ⟨h, n, hn, hboth⟩
    exact ⟨n, hn, h, hboth⟩
  · rintro ⟨n, hn, h, hboth⟩
    exact ⟨h, n, hn, hboth⟩

end VariadicSignature

/-! ### Counts of 64 bits -/

/-- Ranges overlap exactly when some count of 64 bits is in both, whether their bounds are in order
or crossed; so overlap does not depend on the order of the two, and a range overlaps itself exactly
when its bounds are in order. Variadic signatures conflict exactly when both accept some number of
arguments of some type. Only the least counts have to be numbers of 64 bits. -/
theorem overlap_is_shared_count :
    -- ranges
    (∀ a b : Arity, a.min < 2 ^ 64 → b.min < 2 ^ 64 →
      (a.overlaps b ↔ ∃ n < 2 ^ 64, a.contains n ∧ b.contains n)) ∧
    (∀ a b : Arity, a.overlaps b = b.overlaps a) ∧
    (∀ a : Arity, a.overlaps a = a.isValid) ∧
    -- signatures
    ∀ s t : VariadicSignature, s.arity.min < 2 ^ 64 → t.arity.min < 2 ^ 64 →
      (Signature.conflicts s t ↔
        ∃ operand, ∃ n < 2 ^ 64, s.accepts operand n ∧ t.accepts operand n) := by
  refine ⟨?_, Arity.overlaps_comm, Arity.overlaps_self, ?_⟩
  · intro a b ha hb
    exact Arity.overlaps_iff_exists_lt ha hb
  · intro s t hs ht
    exact VariadicSignature.conflicts_iff_exists_lt hs ht

/-- The last count of 64 bits: a range that starts there and one that ends there share it, and
neither shares anything with the range whose bounds are those of the second one crossed. -/
theorem overlap_is_shared_count_at_last :
    let starts : VariadicSignature := ⟨.string, .atLeast (2 ^ 64 - 1)⟩
    let ends : VariadicSignature := ⟨.string, .between 3 (2 ^ 64 - 1)⟩
    let crossed : VariadicSignature := ⟨.string, .between (2 ^ 64 - 1) 3⟩
    (starts.arity.min < 2 ^ 64 ∧ ends.arity.min < 2 ^ 64 ∧ crossed.arity.min < 2 ^ 64) ∧
      (∃ n < 2 ^ 64, starts.arity.contains n ∧ ends.arity.contains n) ∧
      (¬∃ n < 2 ^ 64, starts.arity.contains n ∧ crossed.arity.contains n) ∧
      (∃ operand, ∃ n < 2 ^ 64, starts.accepts operand n ∧ ends.accepts operand n) ∧
      ¬∃ operand, ∃ n < 2 ^ 64, ends.accepts operand n ∧ crossed.accepts operand n := by
  intro starts ends crossed
  have hstarts : starts.arity.min < 2 ^ 64 := by decide
  have hends : ends.arity.min < 2 ^ 64 := by decide
  have hcrossed : crossed.arity.min < 2 ^ 64 := by decide
  obtain ⟨hranges, -, -, hsignatures⟩ := overlap_is_shared_count
  have hapart : ¬starts.arity.overlaps crossed.arity := by decide
  have hfree : ¬Signature.conflicts ends crossed := by decide
  refine ⟨⟨hstarts, hends, hcrossed⟩, ?_, ?_, ?_, ?_⟩
  · exact (hranges _ _ hstarts hends).1 (by decide)
  · exact fun hshared => hapart ((hranges _ _ hstarts hcrossed).2 hshared)
  · exact (hsignatures _ _ hstarts hends).1 (by decide)
  · exact fun haccepted => hfree ((hsignatures _ _ hends hcrossed).2 haccepted)

end ColumnDispatch
