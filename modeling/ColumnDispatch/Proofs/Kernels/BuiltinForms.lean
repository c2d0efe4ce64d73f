import ColumnDispatch.Proofs.Kernels.Combination
import ColumnDispatch.Proofs.Kernels.Conversions
import ColumnDispatch.Proofs.Kernels.Operators

/-! The built-in overloads in row form, group by group. Main statement: `Builtin.isRowwise`. Each
entry of the table is matched with the form of its kernel, so the entry's types are those that the
kernel takes and gives. -/

namespace ColumnDispatch.Builtin

open Kernel

theorem isRowwise_arithmetic : ∀ o ∈ arithmetic, o.IsRowwise := by
  have hoperator (op : Arithmetic) : op.operator ≠ .cast := by cases op <;> nofun
  have hsymbols (t : LogicalType) (ht : t ∈ numericTypes) (op : Arithmetic) :
      ∃ form : BinaryForm t t op.kernel, form.IsStrict := by
    simp only [numericTypes, List.mem_cons, List.not_mem_nil, or_false] at ht
    rcases ht with rfl | rfl | rfl
    · exact ⟨op.integerForm, BinaryForm.isStrict_ofValue⟩
    · exact ⟨op.plainForm .float32 op.onFloat fun _ _ => rfl, BinaryForm.isStrict_ofValue⟩
    · exact ⟨op.plainForm .float64 op.onFloat fun _ _ => rfl, BinaryForm.isStrict_ofValue⟩
  have hnegate (t : LogicalType) (ht : t ∈ numericTypes) :
      (unary .negate t t negate).IsRowwise := by
    simp only [numericTypes, List.mem_cons, List.not_mem_nil, or_false] at ht
    rcases ht with rfl | rfl | rfl
    · exact .unary negateIntegersForm
    · exact .unary (.ofTotal Ieee.Number.neg fun _ => rfl)
    · exact .unary (.ofTotal Ieee.Number.neg fun _ => rfl)
  intro o ho
  simp only [arithmetic, List.mem_append, List.mem_flatMap, List.mem_cons, List.mem_map,
    List.not_mem_nil, or_false] at ho
  rcases ho with ⟨t, ht, rfl | ⟨op, -, rfl⟩⟩ | rfl | rfl | rfl | rfl
  · exact hnegate t ht
  · obtain ⟨form, hstrict⟩ := hsymbols t ht op
    exact .binary (hoperator op) form fun _ => hstrict
  · exact .unary absoluteIntegersForm
  · exact .unary (.ofTotal Ieee.Number.abs fun _ => rfl)
  · exact .unary (.ofTotal Ieee.Number.abs fun _ => rfl)
  · exact .binary nofun Arithmetic.divide.integerForm fun _ => BinaryForm.isStrict_ofValue

theorem isRowwise_comparison : ∀ o ∈ comparison, o.IsRowwise := by
  have hoperator (c : Comparison) : c.operator ≠ .cast := by cases c <;> nofun
  intro o ho
  simp only [comparison, List.mem_flatMap, List.mem_map] at ho
  obtain ⟨t, -, c, -, rfl⟩ := ho
  exact .binary (hoperator c) (c.form t) fun _ => BinaryForm.isStrict_ofValue

theorem isRowwise_logic : ∀ o ∈ logic, o.IsRowwise := by
  intro o ho
  simp only [logic, List.mem_cons, List.not_mem_nil, or_false] at ho
  rcases ho with rfl | rfl | rfl
  · exact .binary nofun (connectiveForm conjunction) nofun
  · exact .binary nofun (connectiveForm disjunction) nofun
  · exact .unary logicalNotForm

theorem isRowwise_casts : ∀ o ∈ casts, o.IsRowwise := by
  intro o ho
  simp only [casts, List.mem_flatMap, List.mem_map, List.mem_filter] at ho
  obtain ⟨source, -, target, ⟨-, hcastable⟩, rfl⟩ := ho
  obtain ⟨form⟩ := exists_castForm hcastable
  exact .cast form

theorem isRowwise_texts : ∀ o ∈ texts, o.IsRowwise := by
  intro o ho
  simp only [texts, List.mem_cons, List.not_mem_nil, or_false] at ho
  rcases ho with rfl | rfl | rfl | rfl | rfl
  · exact .binary nofun (likeForm false) fun _ => BinaryForm.isStrict_ofValue
  · exact .binary nofun (likeForm true) fun _ => BinaryForm.isStrict_ofValue
  · exact .binary nofun searchForm fun _ => BinaryForm.isStrict_ofValue
  · exact .binary nofun notSearchForm fun _ => BinaryForm.isStrict_ofValue
  · exact .variadic (by decide) concatForm fun _ => isStrict_concatForm

theorem isRowwise_choices : ∀ o ∈ choices, o.IsRowwise := by
  intro o ho
  obtain ⟨t, -, rfl⟩ := List.mem_map.1 ho
  exact .variadic (by decide) (coalesceForm t) nofun

theorem isRowwise {o : Registration} (h : o ∈ all) : o.IsRowwise := by
  simp only [all, List.mem_append] at h
  rcases h with ((((h | h) | h) | h) | h) | h
  · exact isRowwise_arithmetic o h
  · exact isRowwise_comparison o h
  · exact isRowwise_logic o h
  · exact isRowwise_texts o h
  · exact isRowwise_casts o h
  · exact isRowwise_choices o h

end ColumnDispatch.Builtin
