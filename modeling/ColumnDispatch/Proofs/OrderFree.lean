/-! What a list tells whatever the order of its elements: the element that passes a test, when no
two do, its elements each once, and the elements sorted by keys that no two share. -/

namespace ColumnDispatch

variable {α κ : Type}

/-! ### The element that passes a test -/

section Search

variable {l l' : List α} {p : α → Bool}

theorem length_filter_le_one (h : l.Pairwise fun a b => ¬(p a ∧ p b)) :
    (l.filter p).length ≤ 1 := by
  have hp : (l.filter p).Pairwise fun a b => ¬(p a ∧ p b) := h.filter p
  match hf : l.filter p with
  | [] => simp
  | [a] => simp
  | a :: b :: rest =>
    rw [hf] at hp
    have ha : p a := (List.mem_filter.1 (hf ▸ List.mem_cons_self : a ∈ l.filter p)).2
    have hb : p b := (List.mem_filter.1 (hf ▸ by simp : b ∈ l.filter p)).2
    exact absurd ⟨ha, hb⟩ (List.rel_of_pairwise_cons hp List.mem_cons_self)

theorem eq_of_length_filter_le_one (h : (l.filter p).length ≤ 1) {a b : α} (ha : a ∈ l)
    (hb : b ∈ l) (hpa : p a) (hpb : p b) : a = b := by
  have ha : a ∈ l.filter p := List.mem_filter.2 ⟨ha, hpa⟩
  have hb : b ∈ l.filter p := List.mem_filter.2 ⟨hb, hpb⟩
  match hf : l.filter p with
  | [] => simp [hf] at ha
  | [c] => simp_all
  | c :: d :: rest => simp [hf] at h

/-- The element that is found is the only one to pass. -/
theorem find?_eq_some_iff_filter (h : (l.filter p).length ≤ 1) {a : α} :
    l.find? p = some a ↔ l.filter p = [a] := by
  rw [← List.head?_filter]
  match hf : l.filter p with
  | [] => simp
  | [b] => simp
  | b :: c :: rest => simp [hf] at h

theorem find?_eq_of_perm (hp : l.Perm l') (h : (l.filter p).length ≤ 1) :
    l.find? p = l'.find? p := by
  have hf : (l.filter p).Perm (l'.filter p) := hp.filter p
  rw [← List.head?_filter, ← List.head?_filter]
  match hl : l.filter p with
  | [] =>
    rw [hl] at hf
    rw [hf.nil_eq]
  | [a] =>
    rw [hl] at hf
    rw [List.singleton_perm.1 hf]
  | a :: b :: rest => simp [hl] at h

end Search

/-! ### Each element once -/

section Distinct

variable [BEq α]

theorem eraseDups_sublist (l : List α) : l.eraseDups.Sublist l := by
  match l with
  | [] => exact List.Sublist.refl _
  | a :: rest =>
    rw [List.eraseDups_cons]
    exact ((eraseDups_sublist _).trans List.filter_sublist).cons_cons a
termination_by l.length
decreasing_by exact Nat.lt_succ_of_le (List.length_filter_le _ _)

theorem nodup_eraseDups [LawfulBEq α] (l : List α) : l.eraseDups.Nodup := by
  match l with
  | [] => exact List.nodup_nil
  | a :: rest =>
    rw [List.eraseDups_cons, List.nodup_cons, List.mem_eraseDups]
    exact ⟨by simp, nodup_eraseDups _⟩
termination_by l.length
decreasing_by exact Nat.lt_succ_of_le (List.length_filter_le _ _)

end Distinct

/-! ### Sorting by keys -/

section Sorting

variable [Ord κ] [Std.TransOrd κ] [Std.LawfulEqOrd κ]

omit [Std.LawfulEqOrd κ] in
theorem pairwise_mergeSort_key (key : α → κ) (l : List α) :
    (l.mergeSort fun a b => (compare (key a) (key b)).isLE).Pairwise
      fun a b => (compare (key a) (key b)).isLE := by
  apply List.pairwise_mergeSort
  · exact fun a b c => Std.TransOrd.isLE_trans
  · intro a b
    rw [Std.OrientedOrd.eq_swap (a := key b), Bool.or_eq_true]
    cases compare (key a) (key b) <;> simp

omit [Std.TransOrd κ] in
theorem compare_eq_lt_of_ne {a b : κ} (hle : (compare a b).isLE) (hne : a ≠ b) : compare a b = .lt := by
  cases hcompare : compare a b with
  | lt => rfl
  | eq => exact absurd (Std.LawfulEqOrd.eq_of_compare hcompare) hne
  | gt => simp [hcompare] at hle

/-- Keys that no two elements share come out in strict order. -/
theorem pairwise_lt_mergeSort_key (key : α → κ) {l : List α}
    (hne : l.Pairwise fun a b => key a ≠ key b) :
    (l.mergeSort fun a b => (compare (key a) (key b)).isLE).Pairwise
      fun a b => compare (key a) (key b) = .lt := by
  have hsorted := pairwise_mergeSort_key key l
  have hdistinct := ((List.mergeSort_perm l fun a b => (compare (key a) (key b)).isLE).pairwise_iff
    fun h => Ne.symm h).2 hne
  exact hsorted.imp₂ (fun _ _ => compare_eq_lt_of_ne) hdistinct

/-- Sorted elements come out in strict order if each is kept once. -/
theorem pairwise_lt_eraseDups_mergeSort [BEq κ] [LawfulBEq κ] (l : List κ) :
    (l.mergeSort fun a b => (compare a b).isLE).eraseDups.Pairwise
      fun a b => compare a b = .lt := by
  have hsorted := (pairwise_mergeSort_key id l).sublist (eraseDups_sublist _)
  exact hsorted.imp₂ (fun _ _ => compare_eq_lt_of_ne) (nodup_eraseDups _)

/-- Lists of the same elements are the same when sorted, if no two elements share a key. -/
theorem mergeSort_eq_of_perm (key : α → κ) {l l' : List α} (hp : l.Perm l')
    (hinj : ∀ a ∈ l, ∀ b ∈ l, key a = key b → a = b) :
    l.mergeSort (fun a b => (compare (key a) (key b)).isLE) =
      l'.mergeSort fun a b => (compare (key a) (key b)).isLE := by
  refine List.Perm.eq_of_pairwise ?_ (pairwise_mergeSort_key key l) (pairwise_mergeSort_key key l')
    ((List.mergeSort_perm ..).trans (hp.trans (List.mergeSort_perm ..).symm))
  intro a b ha hb hab hba
  have ha : a ∈ l := (List.mergeSort_perm ..).subset ha
  have hb : b ∈ l := hp.symm.subset ((List.mergeSort_perm ..).subset hb)
  exact hinj a ha b hb (Std.LawfulEqOrd.eq_of_compare (Std.OrientedCmp.isLE_antisymm hab hba))

end Sorting

end ColumnDispatch
