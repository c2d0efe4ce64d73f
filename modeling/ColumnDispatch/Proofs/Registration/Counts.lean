import ColumnDispatch.Proofs.Registration.Log
import Mathlib.Algebra.GroupWithZero.Nat

/-! How many overloads there are. A registration is on one operator of one class, so the slots of a
class add up to the registrations of the class, and the tables have as many overloads as the log has
registrations. -/

namespace ColumnDispatch

/-! ### Counting by keys -/

section Keys

variable {α κ : Type} [DecidableEq κ] (key : α → κ)

theorem length_filter_mem_cons {k : κ} {keys : List κ} (hk : k ∉ keys) (l : List α) :
    (l.filter (key · ∈ k :: keys)).length =
      (l.filter (key · = k)).length + (l.filter (key · ∈ keys)).length := by
  induction l with
  | nil => rfl
  | cons a rest ih =>
    simp only [List.filter_cons, List.mem_cons] at ih ⊢
    by_cases ha : key a = k
    · simp only [ha, hk, true_or, decide_true, decide_false, if_true, Bool.false_eq_true, if_false,
        List.length_cons]
      omega
    · by_cases hmem : key a ∈ keys <;>
        simp only [ha, hmem, or_true, or_false, decide_true, decide_false, if_true,
          Bool.false_eq_true, if_false, List.length_cons] <;>
        omega

/-- Each element is counted under its own key. -/
theorem sum_length_filter {keys : List κ} (hkeys : keys.Nodup) (l : List α) :
    (keys.map fun k => (l.filter (key · = k)).length).sum = (l.filter (key · ∈ keys)).length := by
  induction keys with
  | nil => exact (congrArg List.length (List.filter_eq_nil_iff.2 (by simp))).symm
  | cons k rest ih =>
    obtain ⟨hk, hrest⟩ := List.nodup_cons.1 hkeys
    rw [List.map_cons, List.sum_cons, ih hrest, length_filter_mem_cons key hk]

theorem sum_length_filter_all {keys : List κ} (hkeys : keys.Nodup) (hall : ∀ k, k ∈ keys)
    (l : List α) : (keys.map fun k => (l.filter (key · = k)).length).sum = l.length := by
  rw [sum_length_filter key hkeys]
  simp [hall]

end Keys

/-! ### Slots and tables -/

theorem Slots.total_eq_sum {Op α : Type} [Catalogue Op] (size : α → Nat) (s : Slots Op α) :
    s.total size = (Catalogue.all.map fun op => size (s.get op)).sum := by
  simp only [total, toList_cells, List.sum_eq_foldr, List.foldr_map]

theorem FixedSlots.Holds.total {Op Sig Kernel : Type} [Catalogue Op] [DecidableEq Op]
    {s : FixedSlots Op Sig Kernel} {log : List (Overload Op Sig Kernel)} (h : s.Holds log) :
    s.total Keyed.size = log.length := by
  have hslot (op : Op) : (s.get op).size = (log.filter (·.operator = op)).length := by
    rw [Keyed.size, h op, List.length_map]
  simp only [Slots.total_eq_sum, hslot]
  exact sum_length_filter_all Overload.operator Catalogue.nodup_all Catalogue.mem_all log

theorem VariadicSlots.Holds.total {s : VariadicSlots} {log : List VariadicOverload}
    (h : s.Holds log) : s.total List.length = log.length := by
  simp only [Slots.total_eq_sum, h _]
  exact sum_length_filter_all Overload.operator Catalogue.nodup_all Catalogue.mem_all log

namespace Registration

/-- Every registration is of one class. -/
theorem length_classes (log : List Registration) :
    (log.filterMap toUnary?).length + (log.filterMap toBinary?).length +
      (log.filterMap toVariadic?).length = log.length := by
  induction log with
  | nil => rfl
  | cons r rest ih =>
    cases r <;>
      simp only [List.filterMap_cons, toUnary?, toBinary?, toVariadic?, List.length_cons] <;> omega

end Registration

theorem Tables.Holds.size {t : Tables} {log : List Registration} (h : t.Holds log) :
    t.size = log.length := by
  rw [Tables.size, h.unary.total, h.binary.total, h.variadic.total, Registration.length_classes]

end ColumnDispatch
