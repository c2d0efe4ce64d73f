import ColumnDispatch.Proofs.Kernels.BuiltinCalls

/-! The choice of a value. Operands are taken in one after the other, each for the rows that are
null in all operands before it. The run stops at an operand of another length that some row still
waits for; if there is none, a row of the result is the first value that an operand has there. The
result of some operands may stand in their place before any others, and no operand is looked at
behind the point where no row waits. Timestamps that still have a time zone are not taken in where
the operands before have another one. Main statement: `Registry.coalesce_first_value`. -/

namespace ColumnDispatch

open Kernel

namespace Kernel

variable {α : Type}

/-! ### Rows that wait -/

/-- A row waits for a value while it is null in all columns so far. -/
def Waits (columns : List (List (Option α))) (i : Nat) : Prop :=
  ∀ column ∈ columns, column[i]? = some none

/-- The run stops at column `k`: some row waits for it, and it does not have `n` rows. -/
def StopsAt (n : Nat) (columns : List (List (Option α))) (k : Nat) : Prop :=
  0 < k ∧ (∃ i, Waits (columns.take k) i) ∧ ∃ c, columns[k]? = some c ∧ c.length ≠ n

/-- The value in row `i` of the first column that has one there. -/
def firstValue (columns : List (List (Option α))) (i : Nat) : Option α :=
  columns.findSome? (·[i]?.join)

@[simp] theorem waits_cons {first : List (Option α)} {columns : List (List (Option α))} {i : Nat} :
    Waits (first :: columns) i ↔ first[i]? = some none ∧ Waits columns i := by
  simp [Waits]

theorem getElem?_zipWith_or_eq_none_iff {xs ys : List (Option α)} {i : Nat} :
    (xs.zipWith Option.or ys)[i]? = some none ↔ xs[i]? = some none ∧ ys[i]? = some none := by
  rw [List.getElem?_zipWith]
  cases xs[i]? <;> cases ys[i]? <;> simp

variable {first column : List (Option α)} {rest : List (List (Option α))} {n k : Nat}

theorem not_stopsAt_zero {columns : List (List (Option α))} : ¬StopsAt n columns 0 :=
  fun h => Nat.lt_irrefl 0 h.1

theorem stopsAt_one : StopsAt n (first :: column :: rest) 1 ↔
    none ∈ first ∧ column.length ≠ n := by
  simp [StopsAt, Waits, List.mem_iff_getElem? (a := none)]

/-- The beginning of a list of columns stops the run where the list does. -/
theorem stopsAt_take {columns : List (List (Option α))} {m : Nat} :
    StopsAt n (columns.take m) k ↔ k < m ∧ StopsAt n columns k := by
  by_cases hk : k < m
  · simp only [StopsAt, List.take_take, Nat.min_eq_left (Nat.le_of_lt hk),
      List.getElem?_take_of_lt hk, hk, true_and]
  · refine iff_of_false (fun ⟨_, _, c, hc, _⟩ => ?_) fun h => hk h.1
    simp [List.getElem?_take_eq_none (Nat.le_of_not_lt hk)] at hc

/-- Columns of one length stop the run where their combination does, one column later. -/
theorem stopsAt_succ (hcolumn : column.length = n) :
    StopsAt n (first :: column :: rest) (k + 1) ↔
      StopsAt n (first.zipWith Option.or column :: rest) k := by
  cases k with
  | zero => simp [stopsAt_one, hcolumn, not_stopsAt_zero]
  | succ k => simp [StopsAt, getElem?_zipWith_or_eq_none_iff, and_assoc]

theorem not_stopsAt_of_length_eq (h : ∀ c ∈ rest, c.length = first.length) :
    ¬∃ k, StopsAt first.length (first :: rest) k := by
  rintro ⟨k, hk, -, c, hc, hne⟩
  obtain ⟨k, rfl⟩ := Nat.exists_eq_succ_of_ne_zero (Nat.ne_of_gt hk)
  exact hne (h c (List.mem_of_getElem? (by simpa using hc)))

theorem firstValue_zipWith_or (hcolumn : column.length = first.length) (i : Nat) :
    firstValue (first.zipWith Option.or column :: rest) i =
      firstValue (first :: column :: rest) i := by
  have hrow : (first.zipWith Option.or column)[i]?.join = first[i]?.join.or column[i]?.join := by
    rw [List.getElem?_zipWith]
    by_cases hi : i < first.length <;> simp [hi, hcolumn]
  simp only [firstValue, List.findSome?_cons, hrow]
  cases first[i]?.join <;> cases column[i]?.join <;> rfl

/-- Nothing is chosen from behind a column where no row waits. -/
theorem map_firstValue (h : none ∉ first ∨ rest = []) :
    (List.range first.length).map (firstValue (first :: rest)) = first := by
  refine List.ext_getElem (by simp) fun i _ hi => ?_
  have hrow : first[i]?.join = first[i] := by simp [hi]
  rw [List.getElem_map, List.getElem_range, firstValue, List.findSome?_cons, hrow]
  cases hcell : first[i] with
  | some a => rfl
  | none =>
    rcases h with hnone | rfl
    · exact absurd (hcell ▸ List.getElem_mem hi) hnone
    · rfl

/-- Where the run does not stop, a row without a value is null in every column. -/
theorem waits_of_firstValue_eq_none (hstops : ¬∃ k, StopsAt first.length (first :: rest) k)
    {i : Nat} (hi : i < first.length) (hnone : firstValue (first :: rest) i = none) :
    Waits (first :: rest) i := by
  -- the columns before `k` have row `i`, so the run would stop at `k` if `k` did not have it
  have hrow (k : Nat) (column : List (Option α)) (hk : (first :: rest)[k]? = some column) :
      column[i]? = some none := by
    induction k using Nat.strongRecOn generalizing column with
    | ind k ih =>
      have hbefore : Waits ((first :: rest).take k) i := by
        intro earlier hearlier
        obtain ⟨j, hj⟩ := List.mem_iff_getElem?.1 hearlier
        have hjk : j < k := by
          have := (List.getElem?_eq_some_iff.1 hj).1
          rw [List.length_take] at this
          omega
        rw [List.getElem?_take_of_lt hjk] at hj
        exact ih j hjk earlier hj
      have hlength : column.length = first.length := by
        rcases Nat.eq_zero_or_pos k with rfl | hpos
        · exact congrArg List.length (Option.some.inj hk).symm
        · exact Classical.not_not.1 fun hne => hstops ⟨k, hpos, ⟨i, hbefore⟩, column, hk, hne⟩
      have hjoin := List.findSome?_eq_none_iff.1 hnone column (List.mem_of_getElem? hk)
      rw [List.getElem?_eq_getElem (hlength ▸ hi)] at hjoin ⊢
      exact congrArg some hjoin
  intro column hcolumn
  obtain ⟨k, hk⟩ := List.mem_iff_getElem?.1 hcolumn
  exact hrow k column hk

/-! ### Filling -/

def unequalLengths : Failure := coalescedFault "all arrays should have the same length"

theorem nullCount_eq_zero_iff {c : Column} : c.nullCount = 0 ↔ none ∉ c.cells := by
  simp only [Column.nullCount, List.countP_eq_zero, Option.isNone_iff_eq_none]
  exact ⟨fun h hnone => h none hnone rfl, fun h x hx hnone => h (hnone ▸ hx)⟩

theorem fillFrom_of_full {c : Column} (h : none ∉ c.cells) (others : List Column) :
    fillFrom c others = .ok c := by
  cases others with
  | nil => rfl
  | cons other rest =>
    rw [fillFrom, if_pos (nullCount_eq_zero_iff.2 h)]
    rfl

theorem fillFrom_cons {c : Column} (h : none ∈ c.cells) (other : Column) (rest : List Column) :
    fillFrom c (other :: rest) = (fillNulls c other).bind (fillFrom · rest) := by
  have hnull : c.nullCount ≠ 0 := fun h' => nullCount_eq_zero_iff.1 h' h
  rw [fillFrom, if_neg hnull]
  rfl

theorem fillNulls_same (s : Storage) (xs ys : List (Option s.Cell)) :
    fillNulls ⟨s, xs⟩ ⟨s, ys⟩ =
      ofSameLength xs ys unequalLengths (.ok ⟨s, xs.zipWith Option.or ys⟩) := by
  simp only [fillNulls, dif_pos]
  rfl

theorem storage_of_fillNulls {c other filled : Column} (h : fillNulls c other = .ok filled) :
    filled.storage = c.storage := by
  unfold fillNulls at h
  split at h
  · unfold ofSameLength at h
    split at h <;> cases h
    rfl
  · cases h

/-- Filling from two lists of columns is filling from one after the other. -/
theorem fillFrom_append (c : Column) (xs ys : List Column) :
    fillFrom c (xs ++ ys) = (fillFrom c xs).bind (fillFrom · ys) := by
  induction xs generalizing c with
  | nil => rfl
  | cons x xs ih =>
    by_cases h : none ∈ c.cells
    · rw [List.cons_append, fillFrom_cons h, fillFrom_cons h]
      cases fillNulls c x with
      | error failure => rfl
      | ok filled => exact ih filled
    · rw [fillFrom_of_full h, fillFrom_of_full h]
      exact (fillFrom_of_full h ys).symm

theorem storage_of_fillFrom {c filled : Column} {others : List Column}
    (h : fillFrom c others = .ok filled) : filled.storage = c.storage := by
  induction others generalizing c with
  | nil => exact congrArg Column.storage (Except.ok.inj h).symm
  | cons other rest ih =>
    by_cases hfull : none ∈ c.cells
    · rw [fillFrom_cons hfull] at h
      cases hstep : fillNulls c other with
      | error failure => simp [hstep, Except.bind] at h
      | ok next =>
        rw [hstep] at h
        exact (ih h).trans (storage_of_fillNulls hstep)
    · rw [fillFrom_of_full hfull] at h
      exact congrArg Column.storage (Except.ok.inj h).symm

section Columns

variable {s : Storage} (first : List (Option s.Cell)) (rest : List (List (Option s.Cell)))

theorem fillFrom_of_stopsAt {k : Nat} (h : StopsAt first.length (first :: rest) k) :
    fillFrom ⟨s, first⟩ (rest.map (Column.mk s)) = .error unequalLengths := by
  induction rest generalizing first k with
  | nil =>
    obtain ⟨hk, -, c, hc, -⟩ := h
    cases k with
    | zero => exact absurd hk (Nat.lt_irrefl 0)
    | succ k => simp at hc
  | cons column rest ih =>
    obtain ⟨hk, ⟨i, hi⟩, -⟩ := id h
    have hnone : none ∈ first := by
      refine List.mem_iff_getElem?.2 ⟨i, hi first ?_⟩
      cases k with
      | zero => exact absurd hk (Nat.lt_irrefl 0)
      | succ k => exact List.mem_cons_self
    rw [List.map_cons, fillFrom_cons hnone, fillNulls_same, ofSameLength]
    split
    · rename_i hlength
      cases k with
      | zero => exact absurd hk (Nat.lt_irrefl 0)
      | succ k =>
        refine ih (first.zipWith Option.or column) (k := k) ?_
        rw [List.length_zipWith, ← hlength, Nat.min_self]
        exact (stopsAt_succ hlength.symm).1 h
    · rfl

theorem fillFrom_of_not_stopsAt (h : ¬∃ k, StopsAt first.length (first :: rest) k) :
    fillFrom ⟨s, first⟩ (rest.map (Column.mk s)) =
      .ok ⟨s, (List.range first.length).map (firstValue (first :: rest))⟩ := by
  induction rest generalizing first with
  | nil =>
    rw [map_firstValue (.inr rfl)]
    rfl
  | cons column rest ih =>
    by_cases hnone : none ∈ first
    · have hlength : column.length = first.length :=
        Classical.not_not.1 fun hne => h ⟨1, stopsAt_one.2 ⟨hnone, hne⟩⟩
      have hzip : (first.zipWith Option.or column).length = first.length := by simp [hlength]
      rw [List.map_cons, fillFrom_cons hnone, fillNulls_same, ofSameLength, if_pos hlength.symm]
      refine (ih (first.zipWith Option.or column) ?_).trans ?_
      · rintro ⟨k, hk⟩
        exact h ⟨k + 1, (stopsAt_succ hlength).2 (hzip ▸ hk)⟩
      · rw [hzip, funext (firstValue_zipWith_or hlength)]
    · rw [fillFrom_of_full hnone, map_firstValue (.inl hnone)]

/-- A run without an early end gives the same, if all columns are of one length. -/
theorem foldlM_fillNulls (h : ∀ c ∈ rest, c.length = first.length) :
    (rest.map (Column.mk s)).foldlM fillNulls ⟨s, first⟩ =
      fillFrom ⟨s, first⟩ (rest.map (Column.mk s)) := by
  induction rest generalizing first with
  | nil => rfl
  | cons column rest ih =>
    have hcolumn : column.length = first.length := h column List.mem_cons_self
    have hzip : (first.zipWith Option.or column).length = first.length := by simp [hcolumn]
    have hrest : ∀ c ∈ rest, c.length = (first.zipWith Option.or column).length :=
      fun c hc => (h c (List.mem_cons_of_mem _ hc)).trans hzip.symm
    rw [fillFrom_of_not_stopsAt _ _ (not_stopsAt_of_length_eq h),
      ← funext (firstValue_zipWith_or hcolumn), ← hzip,
      ← fillFrom_of_not_stopsAt _ _ (not_stopsAt_of_length_eq hrest), ← ih _ hrest, List.map_cons,
      List.foldlM_cons, fillNulls_same, ofSameLength, if_pos hcolumn.symm]
    rfl

end Columns

/-! ### Coalescing -/

/-- Takes in every operand, also when no row waits. -/
def coalesceAll : VariadicKernel
  | [] => .error (.kernel "coalesce requires at least one argument")
  | first :: rest => do Batch.ofColumn (← (rest.map (·.column)).foldlM fillNulls first.column)

theorem coalesce_cons (first : Batch) (rest : List Batch) :
    coalesce (first :: rest) =
      (fillFrom first.column (rest.map (·.column))).bind Batch.ofColumn := rfl

theorem type_of_coalesce {first v : Batch} {rest : List Batch}
    (hfirst : first.column.storage.logical? = some first.type)
    (h : coalesce (first :: rest) = .ok v) : v.type = first.type := by
  rw [coalesce_cons] at h
  cases hfill : fillFrom first.column (rest.map (·.column)) with
  | error failure => simp [hfill, Except.bind] at h
  | ok filled =>
    rw [← storage_of_fillFrom hfill] at hfirst
    rw [hfill, Except.bind, Batch.ofColumn_of_logical? hfirst] at h
    cases h
    rfl

/-- The result of some operands may stand in their place before any others. -/
theorem coalesce_append {first : Batch} (h : first.IsCanonical) (rest others : List Batch) :
    coalesce (first :: rest ++ others) =
      (coalesce (first :: rest)).bind fun v => coalesce (v :: others) := by
  rw [List.cons_append, coalesce_cons, coalesce_cons, List.map_append, fillFrom_append]
  cases hfill : fillFrom first.column (rest.map (·.column)) with
  | error failure => rfl
  | ok filled =>
    have hcanonical : Batch.IsCanonical ⟨first.type, filled⟩ := (storage_of_fillFrom hfill).trans h
    have hv : Batch.ofColumn filled = .ok ⟨first.type, filled⟩ := hcanonical.ofColumn_column
    simp only [Except.bind, hv, coalesce_cons]

section Operands

variable (t : LogicalType) (first : List (Option t.storage.Cell))
  (rest : List (List (Option t.storage.Cell)))

theorem coalesce_ofCells : coalesce ((first :: rest).map (.ofCells t)) =
    (fillFrom ⟨t.storage, first⟩ (rest.map (Column.mk t.storage))).bind Batch.ofColumn := by
  rw [List.map_cons, coalesce_cons, List.map_map]
  rfl

theorem coalesce_of_stopsAt {k : Nat} (h : StopsAt first.length (first :: rest) k) :
    coalesce ((first :: rest).map (.ofCells t)) = .error unequalLengths := by
  rw [coalesce_ofCells, fillFrom_of_stopsAt first rest h]
  rfl

theorem coalesce_of_not_stopsAt (h : ¬∃ k, StopsAt first.length (first :: rest) k) :
    coalesce ((first :: rest).map (.ofCells t)) =
      .ok (.ofCells t ((List.range first.length).map (firstValue (first :: rest)))) := by
  rw [coalesce_ofCells, fillFrom_of_not_stopsAt first rest h]
  exact Batch.IsCanonical.ofColumn_column (b := .ofCells t _) rfl

theorem coalesce_eq_error_iff :
    coalesce ((first :: rest).map (.ofCells t)) = .error unequalLengths ↔
      ∃ k, StopsAt first.length (first :: rest) k := by
  refine ⟨fun h => Classical.not_not.1 fun hstops => ?_, fun ⟨k, hk⟩ =>
    coalesce_of_stopsAt t first rest hk⟩
  rw [coalesce_of_not_stopsAt t first rest hstops] at h
  cases h

theorem coalesce_ofCells_append (others : List Batch) :
    coalesce ((first :: rest).map (.ofCells t) ++ others) =
      (coalesce ((first :: rest).map (.ofCells t))).bind fun v => coalesce (v :: others) :=
  have hfirst : (Batch.ofCells t first).IsCanonical := rfl
  coalesce_append hfirst (rest.map (.ofCells t)) others

/-- No operand is looked at behind the point where no row waits. -/
theorem coalesce_append_of_settled (h : ¬∃ i, Waits (first :: rest) i) (others : List Batch) :
    coalesce ((first :: rest).map (.ofCells t) ++ others) =
      coalesce ((first :: rest).map (.ofCells t)) := by
  rw [coalesce_ofCells_append]
  by_cases hstops : ∃ k, StopsAt first.length (first :: rest) k
  · obtain ⟨k, hk⟩ := hstops
    rw [coalesce_of_stopsAt t first rest hk]
    rfl
  · rw [coalesce_of_not_stopsAt t first rest hstops]
    have hfull : none ∉ (List.range first.length).map (firstValue (first :: rest)) := by
      intro hnone
      obtain ⟨i, hi, hvalue⟩ := List.mem_map.1 hnone
      exact h ⟨i, waits_of_firstValue_eq_none hstops (List.mem_range.1 hi) hvalue⟩
    rw [Except.bind, coalesce_cons, fillFrom_of_full hfull]
    exact Batch.IsCanonical.ofColumn_column rfl

/-- The run stops at the first operand that stops it: those before have a result, and with it there
is none. -/
theorem coalesce_of_first_stop {k : Nat} (h : StopsAt first.length (first :: rest) k)
    (hbefore : ∀ j < k, ¬StopsAt first.length (first :: rest) j) :
    (∃ v, coalesce (((first :: rest).map (.ofCells t)).take k) = .ok v) ∧
      ∀ others, coalesce (((first :: rest).map (.ofCells t)).take (k + 1) ++ others) =
        .error unequalLengths := by
  obtain ⟨k, rfl⟩ := Nat.exists_eq_succ_of_ne_zero (Nat.ne_of_gt h.1)
  simp only [← List.map_take, List.take_succ_cons]
  constructor
  · refine ⟨_, coalesce_of_not_stopsAt t first (rest.take k) ?_⟩
    rintro ⟨j, hj⟩
    rw [← List.take_succ_cons, stopsAt_take] at hj
    exact hbefore j hj.1 hj.2
  · intro others
    have hstops : StopsAt first.length (first :: rest.take (k + 1)) (k + 1) := by
      rw [← List.take_succ_cons, stopsAt_take]
      exact ⟨Nat.lt_succ_self _, h⟩
    rw [coalesce_ofCells_append, coalesce_of_stopsAt t first (rest.take (k + 1)) hstops]
    rfl

theorem coalesceAll_ofCells (h : ∀ c ∈ rest, c.length = first.length) :
    coalesceAll ((first :: rest).map (.ofCells t)) =
      coalesce ((first :: rest).map (.ofCells t)) := by
  rw [coalesce_ofCells, ← foldlM_fillNulls first rest h, List.map_cons, coalesceAll, List.map_map]
  rfl

end Operands

/-- A time zone that all operands have makes no difference, and the result does not have it. -/
theorem coalesce_ofTimestamps (zone : Option String) (first : List (Option Int64))
    (rest : List (List (Option Int64))) :
    coalesce ((first :: rest).map (.ofTimestamps zone)) =
      coalesce ((first :: rest).map (.ofTimestamps none)) := by
  have hrun (zone : Option String) : coalesce ((first :: rest).map (.ofTimestamps zone)) =
      (fillFrom ⟨.timestamp .microsecond zone, first⟩
        (rest.map (Column.mk (.timestamp .microsecond zone)))).bind Batch.ofColumn := by
    rw [List.map_cons, coalesce_cons, List.map_map]
    rfl
  rw [hrun, hrun]
  by_cases hstops : ∃ k, StopsAt first.length (first :: rest) k
  · obtain ⟨k, hk⟩ := hstops
    have hfill (zone : Option String) :=
      fillFrom_of_stopsAt (s := .timestamp .microsecond zone) first rest hk
    rw [hfill, hfill]
  · have hfill (zone : Option String) :=
      fillFrom_of_not_stopsAt (s := .timestamp .microsecond zone) first rest hstops
    rw [hfill, hfill]
    exact Batch.ofColumn_ofTimestamps zone _

def unequalFormats : Failure := coalescedFault "arguments need to have the same data type"

/-- A row does not wait for timestamps with another time zone. -/
theorem coalesce_of_zone_ne {zone zone' : Option String} (hzone : zone ≠ zone')
    {first : List (Option Int64)} (hfirst : none ∈ first) (second : List (Option Int64))
    (others : List Batch) :
    coalesce (.ofTimestamps zone first :: .ofTimestamps zone' second :: others) =
      .error unequalFormats := by
  have hstorage : Storage.timestamp .microsecond zone' ≠ .timestamp .microsecond zone :=
    fun hsame => hzone (Storage.timestamp.inj hsame).2.symm
  have hfill : fillNulls (Batch.ofTimestamps zone first).column
      (Batch.ofTimestamps zone' second).column = .error unequalFormats := dif_neg hstorage
  rw [coalesce_cons, List.map_cons, fillFrom_cons hfirst, hfill]
  rfl

end Kernel

namespace Registry

variable {first : Batch} {rest : List Batch}

/-- A call on operands of one type has the outcome of the kernel. -/
theorem invoke_coalesce (hfirst : first.column.storage.logical? = some first.type)
    (hrest : ∀ b ∈ rest, b.type = first.type) :
    (builtin.invoke (.variadic .coalesce (first :: rest))).result = coalesce (first :: rest) := by
  have ho : Builtin.variadic .coalesce first.type 1 coalesce ∈ Builtin.all := by
    simp [Builtin.all, Builtin.choices, LogicalType.mem_all]
  exact invoke_variadic ho (by omega) hrest fun v => type_of_coalesce hfirst

theorem invoke_coalesce_of_zone_ne {zone zone' : Option String} (hzone : zone ≠ zone')
    {column : List (Option Int64)} (hcolumn : none ∈ column) (other : List (Option Int64))
    {more : List Batch} (hmore : ∀ b ∈ more, b.type = .timestamp) :
    (builtin.invoke (.variadic .coalesce
      (.ofTimestamps zone column :: .ofTimestamps zone' other :: more))).result =
      .error unequalFormats :=
  have hrest : ∀ b ∈ Batch.ofTimestamps zone' other :: more, b.type = .timestamp :=
    List.forall_mem_cons.2 ⟨rfl, hmore⟩
  (invoke_coalesce rfl hrest).trans (coalesce_of_zone_ne hzone hcolumn other more)

/-- What coalescing gives for canonical operands: each row has the first value that an operand has
there, unless an operand of another length is needed first. The only other operands are timestamps
with a time zone. If all have the same one, the result is as without it; if a row waits for the
second operand and that has another one, there is no result. -/
theorem coalesce_first_value (t : LogicalType) (first : List (Option t.storage.Cell))
    (rest : List (List (Option t.storage.Cell))) :
    let columns := first :: rest
    let operands := columns.map (Batch.ofCells t)
    (builtin.invoke (.variadic .coalesce operands)).result = coalesce operands ∧
    (coalesce operands = .error unequalLengths ↔ ∃ k, StopsAt first.length columns k) ∧
    (∀ k, StopsAt first.length columns k → (∀ j < k, ¬StopsAt first.length columns j) →
      (∃ v, coalesce (operands.take k) = .ok v) ∧
      ∀ others, coalesce (operands.take (k + 1) ++ others) = .error unequalLengths) ∧
    ((¬∃ k, StopsAt first.length columns k) → ∃ cells,
      coalesce operands = .ok (.ofCells t cells) ∧ cells.length = first.length ∧
      ∀ i < first.length, cells[i]? = some (firstValue columns i) ∧
        (cells[i]? = some none ↔ Waits columns i)) ∧
    (∀ others, (¬∃ i, Waits columns i) → coalesce (operands ++ others) = coalesce operands) ∧
    (∀ others,
      coalesce (operands ++ others) = (coalesce operands).bind fun v => coalesce (v :: others)) ∧
    ((∀ c ∈ rest, c.length = first.length) → coalesce operands = coalesceAll operands) ∧
    (∀ zone (column : List (Option Int64)) more,
      (builtin.invoke (.variadic .coalesce ((column :: more).map (.ofTimestamps zone)))).result =
        coalesce ((column :: more).map (.ofTimestamps none))) ∧
    ∀ zone zone' (column other : List (Option Int64)) (more : List Batch), zone ≠ zone' →
      none ∈ column → (∀ b ∈ more, b.type = .timestamp) →
        (builtin.invoke (.variadic .coalesce
          (.ofTimestamps zone column :: .ofTimestamps zone' other :: more))).result =
          .error unequalFormats := by
  intro columns operands
  have hinvoke : (builtin.invoke (.variadic .coalesce operands)).result = coalesce operands :=
    invoke_coalesce (Storage.logical?_storage t) (by simp [Batch.ofCells])
  refine ⟨hinvoke, coalesce_eq_error_iff t first rest, fun k => coalesce_of_first_stop t first rest,
    fun hstops => ?_, fun others h => coalesce_append_of_settled t first rest h others,
    coalesce_ofCells_append t first rest, fun h => (coalesceAll_ofCells t first rest h).symm,
    fun zone column more => ?_, fun zone zone' column other more hzone hcolumn hmore => ?_⟩
  · refine ⟨_, coalesce_of_not_stopsAt t first rest hstops, by simp, fun i hi => ?_⟩
    have hcell : ((List.range first.length).map (firstValue columns))[i]? =
        some (firstValue columns i) := by simp [hi]
    refine ⟨hcell, fun hnone => ?_, fun hwaits => ?_⟩
    · exact waits_of_firstValue_eq_none hstops hi (Option.some.inj (hcell.symm.trans hnone))
    · rw [hcell, firstValue, List.findSome?_eq_none_iff.2 fun c hc => by rw [hwaits c hc]; rfl]
  · exact (invoke_coalesce rfl (by simp [Batch.ofTimestamps])).trans
      (coalesce_ofTimestamps zone column more)
  · exact invoke_coalesce_of_zone_ne hzone hcolumn other hmore

/-- Operands of one length fail for their time zones, and the result of some operands, which has no
time zone any more, does not always stand in their place. -/
theorem coalesce_loses_zone :
    let coalesced (operands : List Batch) := (builtin.invoke (.variadic .coalesce operands)).result
    let waiting : Batch := .ofTimestamps (some "UTC") [none]
    let value : Batch := .ofTimestamps (some "UTC") [some 5]
    coalesced [waiting, .ofTimestamps none [some 5]] = .error unequalFormats ∧
      coalesced [waiting, value] = .ok (.ofTimestamps none [some 5]) ∧
      coalesced [waiting] = .ok (.ofTimestamps none [none]) ∧
      coalesced [.ofTimestamps none [none], value] = .error unequalFormats := by
  intro coalesced waiting value
  have hnull : none ∈ [(none : Option Int64)] := List.mem_cons_self
  refine ⟨invoke_coalesce_of_zone_ne (by decide) hnull _ nofun, ?_, ?_,
    invoke_coalesce_of_zone_ne (by decide) hnull _ nofun⟩
  · exact invoke_coalesce rfl (by simp [value, waiting, Batch.ofTimestamps])
  · exact invoke_coalesce rfl nofun

end Registry

end ColumnDispatch
