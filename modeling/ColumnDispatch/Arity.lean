/-! Ranges of argument counts. A range has a least count and, unless it is unbounded, a greatest
one; a range whose bounds are crossed accepts nothing. Ranges are ordered by where they start. -/

namespace ColumnDispatch

@[ext] structure Arity where
  min : Nat
  /-- The greatest accepted count, or nothing for an unbounded range. -/
  max : Option Nat
  deriving DecidableEq, Repr

namespace Arity

def exactly (count : Nat) : Arity := ⟨count, some count⟩

def atLeast (min : Nat) : Arity := ⟨min, none⟩

def between (min max : Nat) : Arity := ⟨min, some max⟩

/-- Whether the bounds are in order. -/
def isValid (a : Arity) : Bool := a.max.all (a.min ≤ ·)

def contains (a : Arity) (count : Nat) : Bool := a.min ≤ count && a.max.all (count ≤ ·)

/-- Whether the larger of the least counts is within both greatest counts. -/
def overlaps (a b : Arity) : Bool :=
  let low := Nat.max a.min b.min
  a.max.all (low ≤ ·) && b.max.all (low ≤ ·)

theorem contains_iff {a : Arity} {n : Nat} :
    a.contains n ↔ a.min ≤ n ∧ ∀ m ∈ a.max, n ≤ m := by
  simp [contains, Option.all_eq_true]

theorem isValid_iff {a : Arity} : a.isValid ↔ ∀ m ∈ a.max, a.min ≤ m := by
  simp [isValid, Option.all_eq_true]

theorem contains_min {a : Arity} (h : a.isValid) : a.contains a.min :=
  contains_iff.2 ⟨Nat.le_refl _, isValid_iff.1 h⟩

def describe (a : Arity) : String :=
  match a.max with
  | none => s!"at least {a.min}"
  | some m => if m = a.min then s!"exactly {m}" else s!"{a.min} to {m}"

instance : ToString Arity := ⟨describe⟩

/-- Ranges are ordered by their least counts, then an unbounded range before a bounded one, then by
their greatest counts. -/
instance : Ord Arity := ⟨fun a b => (compare a.min b.min).then (compare a.max b.max)⟩

instance : Std.TransOrd Arity :=
  inferInstanceAs (Std.TransCmp (compareLex (compareOn Arity.min) (compareOn Arity.max)))

instance : Std.LawfulEqOrd Arity where
  eq_of_compare h := by
    obtain ⟨hmin, hmax⟩ := Ordering.then_eq_eq.1 h
    exact Arity.ext (Std.LawfulEqOrd.eq_of_compare hmin) (Std.LawfulEqOrd.eq_of_compare hmax)

/-- The strict form of the order. -/
def Precedes (a b : Arity) : Prop :=
  a.min < b.min ∨ a.min = b.min ∧ ∃ n ∈ b.max, ∀ m ∈ a.max, m < n

theorem Precedes.min_le {a b : Arity} (h : a.Precedes b) : a.min ≤ b.min :=
  h.elim Nat.le_of_lt fun heq => Nat.le_of_eq heq.1

instance : Std.Irrefl Precedes where
  irrefl a h := by
    obtain hlt | ⟨-, n, hn, hless⟩ := h
    · exact Nat.lt_irrefl _ hlt
    · exact Nat.lt_irrefl n (hless n hn)

instance : Std.Antisymm Precedes where
  antisymm a b h h' := by
    obtain hlt | ⟨heq, n, hn, hless⟩ := h
    · obtain hlt' | ⟨heq', -⟩ := h' <;> omega
    · obtain hlt' | ⟨-, m, hm, hless'⟩ := h'
      · omega
      · exact absurd (hless m hm) (Nat.lt_asymm (hless' n hn))

theorem compare_max_eq_lt_iff {a b : Option Nat} :
    compare a b = .lt ↔ ∃ n ∈ b, ∀ m ∈ a, m < n := by
  cases a with
  | none => cases b <;> simp [compare]
  | some m =>
    cases b with
    | none => simp [compare]
    | some n =>
      have hsome : compare (some m) (some n) = compare m n := rfl
      simp [hsome, Nat.compare_eq_lt]

theorem compare_eq_lt_iff {a b : Arity} : compare a b = .lt ↔ a.Precedes b := by
  have hcompare : compare a b = (compare a.min b.min).then (compare a.max b.max) := rfl
  rw [hcompare, Ordering.then_eq_lt, Nat.compare_eq_lt, Nat.compare_eq_eq, compare_max_eq_lt_iff]
  rfl

end Arity

end ColumnDispatch
