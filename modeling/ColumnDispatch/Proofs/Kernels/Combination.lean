import ColumnDispatch.Proofs.Kernels.RowForm

/-! Row forms of the variadic kernels. Concatenation and the choice of a value combine the columns
with the first one, from the left on, and both may come to an end before the last column: the one at
a column of another length, the other when no null is left. On columns of one length neither shows,
and the cells of each row are combined on their own. -/

namespace ColumnDispatch

open Kernel

/-! ### Combination of columns -/

/-- What may come of combining columns with a first one, from the left on. Columns of one length are
combined row by row; any others may stop the run. -/
structure Combines {α : Type} (combine : Option α → Option α → Option α) (first : List (Option α))
    (rest : List (List (Option α))) (outcome : Except Failure (List (Option α))) : Prop where
  same : (∀ c ∈ rest, c.length = first.length) →
    outcome = .ok (rest.foldl (List.zipWith combine) first)
  length : ∀ cells, outcome = .ok cells → cells.length = first.length
  fault : ∀ failure, outcome = .error failure → failure.IsCompute

namespace Combines

variable {α : Type} {combine : Option α → Option α → Option α} {first column : List (Option α)}
  {rest : List (List (Option α))} {outcome : Except Failure (List (Option α))}

theorem nil : Combines combine first [] (.ok first) :=
  ⟨fun _ => rfl, fun _ h => congrArg List.length (Except.ok.inj h).symm, fun _ => nofun⟩

theorem cons (hcolumn : first.length = column.length)
    (h : Combines combine (first.zipWith combine column) rest outcome) :
    Combines combine first (column :: rest) outcome := by
  have hlength : (first.zipWith combine column).length = first.length := by simp [← hcolumn]
  refine ⟨fun hrest => h.same fun c hc => ?_, fun cells hcells => ?_, h.fault⟩
  · rw [hlength, hrest c (List.mem_cons_of_mem _ hc)]
  · rw [h.length cells hcells, hlength]

theorem mismatch (hcolumn : first.length ≠ column.length) {failure : Failure}
    (hfailure : failure.IsCompute) : Combines combine first (column :: rest) (.error failure) := by
  refine ⟨fun hrest => absurd (hrest column List.mem_cons_self).symm hcolumn, fun _ => nofun, ?_⟩
  rintro _ ⟨⟩
  exact hfailure

/-- Where there is no null, there is nothing to choose. -/
theorem full (hfull : ∀ x ∈ first, x ≠ none) : Combines Option.or first rest (.ok first) := by
  have hzip (column : List (Option α)) (h : column.length = first.length) :
      first.zipWith Option.or column = first := by
    refine List.ext_getElem (by simp [h]) fun i hi hi' => ?_
    obtain ⟨a, ha⟩ := Option.ne_none_iff_exists'.1 (hfull first[i] (List.getElem_mem hi'))
    simp [ha]
  have hfold : (∀ c ∈ rest, c.length = first.length) →
      rest.foldl (List.zipWith Option.or) first = first := by
    induction rest with
    | nil => exact fun _ => rfl
    | cons column rest ih =>
      intro h
      rw [List.foldl_cons, hzip column (h column List.mem_cons_self)]
      exact ih fun c hc => h c (List.mem_cons_of_mem _ hc)
  exact ⟨fun h => congrArg _ (hfold h).symm,
    fun _ h => congrArg List.length (Except.ok.inj h).symm, fun _ => nofun⟩

end Combines

/-- The cells of a row are combined from the left on. -/
def VariadicForm.ofCombines {t : LogicalType} {kernel : VariadicKernel}
    (combine : Option t.storage.Cell → Option t.storage.Cell → Option t.storage.Cell)
    (h : ∀ first rest, ∃ outcome, Combines combine first rest outcome ∧
      kernel ((first :: rest).map (.ofCells t)) = outcome.map (.ofCells t)) :
    VariadicForm t kernel where
  row := combineRow combine
  kernel_ofColumns n first rest hcolumns := by
    obtain ⟨outcome, hcombines, hkernel⟩ := h first rest
    have hfirst : first.length = n := hcolumns first List.mem_cons_self
    have hrest (c) (hc : c ∈ rest) : c.length = n := hcolumns c (List.mem_cons_of_mem _ hc)
    rw [hkernel, hcombines.same fun c hc => (hrest c hc).trans hfirst.symm,
      foldl_zipWith combine hfirst hrest]
    rfl
  isAnswer first rest := by
    obtain ⟨outcome, hcombines, hkernel⟩ := h first rest
    exact hkernel ▸ isAnswer_map hcombines.length hcombines.fault

namespace Kernel

/-! ### Concatenation -/

/-- One text behind the other, if there are both. -/
def joined (x y : Option String) : Option String := x.bind fun a => y.map (a ++ ·)

theorem appendTexts_eq (xs ys : List (Option String)) :
    appendTexts xs ys = ofSameLength xs ys (concatenatedLengths xs.length ys.length)
      (.ok (xs.zipWith joined ys)) := by
  have hrow : (onBothPresent fun a b => .ok (a ++ b)) = fun x y => .ok (joined x y) := by
    funext x y
    match x, y with
    | some _, some _ | some _, none | none, _ => rfl
  rw [appendTexts, hrow, eachPair_ok]

theorem combines_appendAll (texts : List (Option String)) (rest : List (List (Option String))) :
    Combines joined texts rest (appendAll texts (rest.map (.ofCells .string))) := by
  induction rest generalizing texts with
  | nil => exact .nil
  | cons column rest ih =>
    change Combines joined texts (column :: rest)
      ((appendTexts texts column).bind (appendAll · (rest.map (.ofCells .string))))
    rw [appendTexts_eq, ofSameLength]
    split
    · exact .cons ‹_› (ih _)
    · exact .mismatch ‹_› ⟨_, rfl⟩

def concatForm : VariadicForm .string concat :=
  .ofCombines joined fun first rest => ⟨_, combines_appendAll first rest, except_bind_ok _ _⟩

theorem foldl_joined_of_none {cells : List (Option String)} (x : Option String)
    (h : none ∈ x :: cells) : cells.foldl joined x = none := by
  induction cells generalizing x with
  | nil => exact (List.mem_singleton.1 h).symm
  | cons cell rest ih =>
    refine ih _ ?_
    rcases List.mem_cons.1 h with rfl | h
    · exact List.mem_cons_self
    · rcases List.mem_cons.1 h with rfl | h
      · simp [joined]
      · exact List.mem_cons_of_mem _ h

theorem isStrict_concatForm : concatForm.IsStrict := by
  intro cells h
  cases cells with
  | nil => rfl
  | cons cell rest => exact foldl_joined_of_none cell h

/-! ### Choice of a value -/

theorem combines_fillFrom (s : Storage) (cells : List (Option s.Cell))
    (rest : List (List (Option s.Cell))) : ∃ outcome, Combines Option.or cells rest outcome ∧
      fillFrom ⟨s, cells⟩ (rest.map (Column.mk s)) = outcome.map (Column.mk s) := by
  induction rest generalizing cells with
  | nil => exact ⟨_, .nil, rfl⟩
  | cons column rest ih =>
    rw [List.map_cons, fillFrom]
    by_cases hfull : (Column.mk s cells).nullCount = 0
    · rw [if_pos hfull]
      refine ⟨_, .full fun x hx => ?_, rfl⟩
      simpa using List.countP_eq_zero.1 hfull x hx
    · rw [if_neg hfull, fillNulls, dif_pos rfl, ofSameLength]
      split
      · obtain ⟨outcome, hcombines, hrest⟩ := ih (cells.zipWith Option.or column)
        exact ⟨outcome, hcombines.cons ‹_›, hrest⟩
      · exact ⟨_, .mismatch ‹_› ⟨_, rfl⟩, rfl⟩

def coalesceForm (t : LogicalType) : VariadicForm t coalesce :=
  .ofCombines Option.or fun first rest => by
    obtain ⟨outcome, hcombines, hrest⟩ := combines_fillFrom t.storage first rest
    refine ⟨outcome, hcombines, ?_⟩
    have hcolumns : (rest.map (Batch.ofCells t)).map (·.column) = rest.map (Column.mk t.storage) :=
      List.map_map
    rw [← bind_ofColumn, ← hrest, ← hcolumns]
    rfl

end Kernel

end ColumnDispatch
