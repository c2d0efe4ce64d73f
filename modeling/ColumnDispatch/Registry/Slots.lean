import ColumnDispatch.Operator

/-! A value for each operator of a class, kept in a row at the operator's index. No two operators of
a class share an index, so a change for one operator is seen by no other. -/

namespace ColumnDispatch

structure Slots (Op α : Type) [Catalogue Op] where
  cells : Vector α (Catalogue.count Op)

namespace Slots

variable {Op α : Type} [Catalogue Op]

/-- The same value for every operator. -/
def all (a : α) : Slots Op α := ⟨.replicate _ a⟩

def get (s : Slots Op α) (op : Op) : α :=
  have := Catalogue.index_lt_count op
  s.cells[Catalogue.index op]

def set (s : Slots Op α) (op : Op) (a : α) : Slots Op α :=
  ⟨s.cells.set (Catalogue.index op) a (Catalogue.index_lt_count op)⟩

/-- The sum of a size over the row. -/
def total (size : α → Nat) (s : Slots Op α) : Nat :=
  s.cells.toList.foldr (fun a n => size a + n) 0

@[simp] theorem get_all (a : α) (op : Op) : (all a : Slots Op α).get op = a := by simp [all, get]

@[simp] theorem get_set_self (s : Slots Op α) (op : Op) (a : α) : (s.set op a).get op = a := by
  simp [set, get]

theorem get_set_of_ne (s : Slots Op α) {op other : Op} (a : α) (h : other ≠ op) :
    (s.set op a).get other = s.get other := by
  have hi : Catalogue.index op ≠ Catalogue.index other :=
    fun hi => h (Catalogue.index_injective hi.symm)
  simp only [set, get]
  exact Vector.getElem_set_ne _ _ hi

/-- The row lists the values of the operators in their order. -/
theorem toList_cells (s : Slots Op α) : s.cells.toList = Catalogue.all.map s.get := by
  apply List.ext_getElem
  · rw [Vector.length_toList, List.length_map]
    rfl
  · intro i hi hi'
    have hlt : i < (Catalogue.all : List Op).length := by simpa using hi'
    have hindex : i = Catalogue.index (Catalogue.all : List Op)[i] :=
      Catalogue.ofIndex?_eq_some_iff.1 (List.getElem?_eq_getElem hlt)
    simp only [List.getElem_map, get, Vector.getElem_toList]
    congr 1

theorem total_congr {size : α → Nat} {s s' : Slots Op α}
    (h : ∀ op, size (s.get op) = size (s'.get op)) : s.total size = s'.total size := by
  simp only [total, toList_cells, List.foldr_map, h]

end Slots

end ColumnDispatch
