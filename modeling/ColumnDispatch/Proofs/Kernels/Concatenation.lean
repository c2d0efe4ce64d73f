import ColumnDispatch.Proofs.Kernels.BuiltinCalls

/-! Concatenation of texts. The operands of a call have to be of one length, and the first that is
not decides the fault. A row of the result is null if an operand is null there, and else the texts
of all operands in their order. The result of some operands may stand in their place before any
others. Main statement: `Registry.concat_joins_rows`. -/

namespace ColumnDispatch

open Kernel

/-- A batch of texts. -/
def Batch.ofTexts (cells : List (Option String)) : Batch := .ofCells .string cells

namespace Kernel

/-! ### Rows -/

theorem exists_eq_map_some {cells : List (Option String)} (h : none ∉ cells) :
    ∃ texts : List String, cells = texts.map some := by
  induction cells with
  | nil => exact ⟨[], rfl⟩
  | cons cell rest ih =>
    obtain ⟨text, rfl⟩ := Option.ne_none_iff_exists'.1 fun hcell => h (hcell ▸ List.mem_cons_self)
    obtain ⟨texts, rfl⟩ := ih fun hrest => h (List.mem_cons_of_mem _ hrest)
    exact ⟨text :: texts, rfl⟩

/-- Texts are joined in their order. -/
theorem combineRow_joined (text : String) (texts : List String) :
    combineRow joined ((text :: texts).map some) = some (String.join (text :: texts)) := by
  have hfold (text : String) : (texts.map some).foldl joined (some text) =
      some (text ++ String.join texts) := by
    induction texts generalizing text with
    | nil => simp
    | cons next texts ih =>
      rw [List.map_cons, List.foldl_cons, String.join_cons, ← String.append_assoc]
      exact ih (text ++ next)
  rw [List.map_cons, combineRow, hfold, String.join_cons]

theorem combineRow_joined_eq_none_iff {cells : List (Option String)} (h : cells ≠ []) :
    combineRow joined cells = none ↔ none ∈ cells := by
  refine ⟨fun hnone => Classical.not_not.1 fun hmem => ?_, fun hmem => isStrict_concatForm _ hmem⟩
  obtain ⟨texts, rfl⟩ := exists_eq_map_some hmem
  cases texts with
  | nil => exact h rfl
  | cons text texts =>
    rw [combineRow_joined] at hnone
    cases hnone

/-! ### Columns one after the other -/

theorem appendAll_append (texts : List (Option String)) (xs ys : List Batch) :
    appendAll texts (xs ++ ys) = (appendAll texts xs).bind (appendAll · ys) := by
  induction xs generalizing texts with
  | nil => rfl
  | cons x xs ih =>
    change ((cellsOf .utf8 x).bind fun more => (appendTexts texts more).bind
        (appendAll · (xs ++ ys))) =
      ((cellsOf .utf8 x).bind fun more => (appendTexts texts more).bind (appendAll · xs)).bind
        (appendAll · ys)
    cases cellsOf .utf8 x with
    | error failure => rfl
    | ok more =>
      cases happend : appendTexts texts more with
      | error failure => simp only [Except.bind, happend]
      | ok appended => simpa only [Except.bind, happend] using ih appended

/-- The first column of another length decides the fault. -/
theorem appendAll_of_mismatch {texts column : List (Option String)}
    {rest : List (List (Option String))}
    (h : rest.find? (·.length ≠ texts.length) = some column) :
    appendAll texts (rest.map .ofTexts) =
      .error (concatenatedLengths texts.length column.length) := by
  induction rest generalizing texts with
  | nil => cases h
  | cons next rest ih =>
    change (appendTexts texts next).bind (appendAll · (rest.map .ofTexts)) = _
    rw [appendTexts_eq, ofSameLength]
    by_cases hlength : texts.length = next.length
    · have hzip : (texts.zipWith joined next).length = texts.length := by simp [← hlength]
      rw [if_pos hlength, ← hzip]
      refine ih ?_
      rw [hzip]
      simpa [List.find?_cons, hlength] using h
    · have hnext : next = column := by simpa [List.find?_cons, Ne.symm hlength] using h
      rw [if_neg hlength, hnext]
      rfl

/-! ### Concatenating -/

theorem concat_cons (first : Batch) (rest : List Batch) :
    concat (first :: rest) = (cellsOf .utf8 first).bind fun texts =>
      (appendAll texts rest).map .ofTexts :=
  congrArg (cellsOf .utf8 first).bind (funext fun texts => except_bind_ok (appendAll texts rest) _)

/-- The result of some operands may stand in their place before any others. -/
theorem concat_append (first : Batch) (rest others : List Batch) :
    concat (first :: rest ++ others) =
      (concat (first :: rest)).bind fun v => concat (v :: others) := by
  rw [List.cons_append, concat_cons, concat_cons]
  cases cellsOf .utf8 first with
  | error failure => rfl
  | ok texts =>
    simp only [Except.bind, appendAll_append]
    cases appendAll texts rest with
    | error failure => rfl
    | ok joined => exact (concat_cons (.ofTexts joined) others).symm

section Operands

variable (first : List (Option String)) (rest : List (List (Option String)))

theorem concat_ofTexts : concat ((first :: rest).map .ofTexts) =
    (appendAll first (rest.map .ofTexts)).map .ofTexts :=
  concat_cons (.ofTexts first) (rest.map .ofTexts)

theorem concat_of_mismatch {column : List (Option String)}
    (h : rest.find? (·.length ≠ first.length) = some column) :
    concat ((first :: rest).map .ofTexts) =
      .error (concatenatedLengths first.length column.length) := by
  rw [concat_ofTexts, appendAll_of_mismatch h]
  rfl

theorem concat_of_length_eq (h : ∀ c ∈ rest, c.length = first.length) :
    concat ((first :: rest).map .ofTexts) =
      .ok (.ofTexts ((rowsOf first.length (first :: rest)).map (combineRow joined))) := by
  have happend := (combines_appendAll first rest).same h
  rw [foldl_zipWith joined rfl h] at happend
  rw [concat_ofTexts]
  exact congrArg (Except.map Batch.ofTexts) happend

/-- Columns of several lengths, and no others, are a fault. -/
theorem exists_fault_concat_iff :
    (∃ fault, concat ((first :: rest).map .ofTexts) = .error (.compute fault)) ↔
      ∃ c ∈ first :: rest, c.length ≠ first.length := by
  cases hfind : rest.find? (·.length ≠ first.length) with
  | some column =>
    have hcolumn := List.find?_some hfind
    refine iff_of_true ⟨_, concat_of_mismatch first rest hfind⟩ ⟨column, ?_, by simpa using hcolumn⟩
    exact List.mem_cons_of_mem _ (List.mem_of_find?_eq_some hfind)
  | none =>
    have hrest : ∀ c ∈ rest, c.length = first.length := by simpa using hfind
    refine iff_of_false ?_ (by simpa using hrest)
    rintro ⟨fault, hfault⟩
    rw [concat_of_length_eq first rest hrest] at hfault
    cases hfault

end Operands

end Kernel

namespace Registry

/-- A call on two operands or more has the outcome of the kernel. -/
theorem invoke_concat {first : List (Option String)} {rest : List (List (Option String))}
    (hrest : rest ≠ []) :
    (builtin.invoke (.variadic .concat ((first :: rest).map .ofTexts))).result =
      concat ((first :: rest).map .ofTexts) := by
  have ho : Builtin.variadic .concat .string 2 concat ∈ Builtin.all := by
    simp [Builtin.all, Builtin.texts]
  have hcount : 2 ≤ (rest.map Batch.ofTexts).length + 1 := by
    have := List.length_pos_iff.2 hrest
    rw [List.length_map]
    omega
  have htypes : ∀ b ∈ rest.map Batch.ofTexts, b.type = .string := by
    simp [Batch.ofTexts, Batch.ofCells]
  refine invoke_variadic ho hcount htypes fun v hv => ?_
  obtain ⟨cells, -, rfl⟩ := except_map_eq_ok_iff.1 ((concat_ofTexts first rest).symm.trans hv)
  rfl

/-- What concatenation gives: each row is made of the texts of all operands, if they are of one
length and none of them is null there. -/
theorem concat_joins_rows (first : List (Option String)) (rest : List (List (Option String))) :
    let operands : List Batch := (first :: rest).map .ofTexts
    let columns := first :: rest
    (rest ≠ [] → (builtin.invoke (.variadic .concat operands)).result = concat operands) ∧
    ((∃ fault, concat operands = .error (.compute fault)) ↔
      ∃ c ∈ columns, c.length ≠ first.length) ∧
    (∀ column, columns.find? (·.length ≠ first.length) = some column →
      concat operands = .error (concatenatedLengths first.length column.length)) ∧
    ((∀ c ∈ columns, c.length = first.length) → ∃ cells,
      concat operands = .ok (.ofTexts cells) ∧ cells.length = first.length ∧
      ∀ i < first.length, (cells[i]? = some none ↔ ∃ column ∈ columns, column[i]? = some none) ∧
        ∀ texts : List String, columns.map (·[i]?) = texts.map (some ∘ some) →
          cells[i]? = some (some (String.join texts))) ∧
    (∀ others, concat (operands ++ others) = (concat operands).bind fun v => concat (v :: others)) ∧
    concat [.ofTexts first] = .ok (.ofTexts first) := by
  intro operands columns
  refine ⟨invoke_concat, exists_fault_concat_iff first rest, fun column h =>
    concat_of_mismatch first rest (by simpa [columns] using h), fun h => ?_,
    fun others => concat_append (.ofTexts first) (rest.map .ofTexts) others, rfl⟩
  have hrest : ∀ c ∈ rest, c.length = first.length := fun c hc => h c (List.mem_cons_of_mem _ hc)
  refine ⟨_, concat_of_length_eq first rest hrest, by rw [List.length_map, length_rowsOf h],
    fun i hi => ?_⟩
  obtain ⟨row, hrow, hcells⟩ := exists_getElem?_rowsOf h hi
  have hnonempty : row ≠ [] := by
    rintro rfl
    cases hcells
  have hnull : none ∈ row ↔ ∃ column ∈ columns, column[i]? = some none := by
    simpa using congrArg (some none ∈ ·) hcells.symm
  rw [List.getElem?_map, hrow, Option.map_some, Option.some.injEq,
    combineRow_joined_eq_none_iff hnonempty]
  refine ⟨hnull, fun texts htexts => ?_⟩
  obtain rfl : row = texts.map some := by
    refine (List.map_inj_right fun _ _ => Option.some.inj).1 (hcells.symm.trans ?_)
    rw [htexts, List.map_map]
  cases texts with
  | nil => exact absurd rfl hnonempty
  | cons text texts =>
    exact congrArg some (combineRow_joined text texts)

end Registry

end ColumnDispatch
