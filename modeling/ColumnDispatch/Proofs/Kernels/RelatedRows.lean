import ColumnDispatch.Proofs.Kernels.Rows
import Mathlib.Data.List.Forall2

/-! Related columns. Nulls stand in the same rows of both, and each value is related to the one in
its row. A function that is run down a column makes a column that is related to it by the function,
and functions of two values that agree on related ones make the same of related columns. -/

namespace ColumnDispatch.Kernel

variable {α α' β β' γ : Type} {R : α → β → Prop} {S : α' → β' → Prop}

/-- Nulls stand in the same rows of both columns, and values in relation to those in their row. -/
def Related (R : α → β → Prop) (xs : List (Option α)) (ys : List (Option β)) : Prop :=
  List.Forall₂ (Option.Rel R) xs ys

theorem Related.length_eq {xs : List (Option α)} {ys : List (Option β)} (h : Related R xs ys) :
    xs.length = ys.length :=
  List.Forall₂.length_eq h

theorem Related.flip {xs : List (Option α)} {ys : List (Option β)} (h : Related R xs ys) :
    Related (fun b a => R a b) ys xs := by
  refine List.Forall₂.flip (List.Forall₂.imp (fun x y hxy => ?_) h)
  cases hxy with
  | some hab => exact .some hab
  | none => exact .none

theorem Related.trans {xs : List (Option α)} {ys : List (Option β)} {zs : List (Option γ)}
    (h : Related R xs ys) {Q : β → γ → Prop} (h' : Related Q ys zs) {T : α → γ → Prop}
    (hT : ∀ a b c, R a b → Q b c → T a c) : Related T xs zs := by
  induction h generalizing zs with
  | nil =>
    cases h'
    exact .nil
  | cons hxy _ ih =>
    cases h' with
    | cons hyz hrest =>
      refine .cons ?_ (ih hrest)
      cases hxy with
      | none =>
        cases hyz
        exact .none
      | some hab =>
        cases hyz with
        | some hbc => exact .some (hT _ _ _ hab hbc)

theorem Related.imp {xs : List (Option α)} {ys : List (Option β)} (h : Related R xs ys)
    {Q : α → β → Prop} (hQ : ∀ a b, R a b → Q a b) : Related Q xs ys := by
  refine List.Forall₂.imp (fun x y hxy => ?_) h
  cases hxy with
  | some hab => exact .some (hQ _ _ hab)
  | none => exact .none

theorem getElem?_map_bind {f : α → Option β} {xs : List (Option α)} {i : Nat} {a : α}
    (h : xs[i]? = some (some a)) : (xs.map (·.bind f))[i]? = some (f a) := by
  rw [List.getElem?_map, h, Option.map_some, Option.bind_some]

theorem related_bind {f : α → Option β} {xs : List (Option α)}
    (h : ∀ a, some a ∈ xs → ∃ b, f a = some b ∧ R a b) : Related R xs (xs.map (·.bind f)) := by
  rw [Related, List.forall₂_map_right_iff, List.forall₂_same]
  intro x hx
  cases x with
  | none => exact .none
  | some a =>
    obtain ⟨b, hb, hab⟩ := h a hx
    rw [Option.bind_some, hb]
    exact .some hab

theorem related_map {f : α → β} {xs : List (Option α)} (h : ∀ a, some a ∈ xs → R a (f a)) :
    Related R xs (xs.map (·.map f)) := by
  simp only [Option.map_eq_bind]
  exact related_bind fun a ha => ⟨f a, rfl, h a ha⟩

theorem Related.map_bind_eq {xs : List (Option α)} {ys : List (Option β)} (h : Related R xs ys)
    {f : α → Option γ} {g : β → Option γ} (hfg : ∀ a b, R a b → f a = g b) :
    xs.map (·.bind f) = ys.map (·.bind g) := by
  induction h with
  | nil => rfl
  | @cons x y _ _ hxy _ ih =>
    have hrow : x.bind f = y.bind g := by
      cases hxy with
      | none => rfl
      | some hab => exact hfg _ _ hab
    rw [List.map_cons, List.map_cons, hrow, ih]

/-- A value has the related one in its row. -/
theorem Related.exists_right {xs : List (Option α)} {ys : List (Option β)} (h : Related R xs ys)
    {i : Nat} {a : α} (ha : xs[i]? = some (some a)) : ∃ b, ys[i]? = some (some b) ∧ R a b := by
  obtain ⟨hi, hcell⟩ := List.getElem?_eq_some_iff.1 ha
  obtain ⟨hlength, hrows⟩ := List.forall₂_iff_get.1 h
  have hrow := hrows i hi (hlength ▸ hi)
  rw [List.get_eq_getElem, hcell, List.get_eq_getElem] at hrow
  rw [List.getElem?_eq_getElem (hlength ▸ hi)]
  generalize ys[i] = y at hrow
  cases hrow with
  | some hab => exact ⟨_, rfl, hab⟩

theorem Related.of_rows {xs : List (Option α)} {ys : List (Option β)} (h : Related R xs ys)
    {i : Nat} {a : α} {b : β} (ha : xs[i]? = some (some a)) (hb : ys[i]? = some (some b)) :
    R a b := by
  obtain ⟨b', hb', hab⟩ := h.exists_right ha
  obtain rfl : b' = b := Option.some.inj (Option.some.inj (hb'.symm.trans hb))
  exact hab

theorem related_and_iff {P : α → Prop} {xs : List (Option α)} {ys : List (Option β)} :
    Related (fun a b => P a ∧ R a b) xs ys ↔ (∀ a, some a ∈ xs → P a) ∧ Related R xs ys := by
  have hrow : Option.Rel (fun a b => P a ∧ R a b) =
      fun x y => (∀ a, some a = x → P a) ∧ Option.Rel R x y := by
    funext x y
    cases x <;> cases y <;> simp
  have hcells : (∀ x ∈ xs, ∀ a, some a = x → P a) ↔ ∀ a, some a ∈ xs → P a :=
    ⟨fun h a ha => h _ ha a rfl, fun h x hx a hax => h a (hax ▸ hx)⟩
  rw [Related, hrow, List.forall₂_and_left, hcells, Related]

/-- What holds of one of two related values if it does of the other holds of the values of both
columns or of neither. -/
theorem Related.forall_iff {xs : List (Option α)} {ys : List (Option β)} (h : Related R xs ys)
    {P : α → Prop} {Q : β → Prop} (hPQ : ∀ a b, R a b → (P a ↔ Q b)) :
    (∀ a, some a ∈ xs → P a) ↔ ∀ b, some b ∈ ys → Q b := by
  constructor
  · intro hxs b hb
    obtain ⟨i, hi⟩ := List.mem_iff_getElem?.1 hb
    obtain ⟨a, ha, hab⟩ := h.flip.exists_right hi
    exact (hPQ a b hab).1 (hxs a (List.mem_of_getElem? ha))
  · intro hys a ha
    obtain ⟨i, hi⟩ := List.mem_iff_getElem?.1 ha
    obtain ⟨b, hb, hab⟩ := h.exists_right hi
    exact (hPQ a b hab).2 (hys b (List.mem_of_getElem? hb))

/-- A run succeeds with the column that is related to the given one by the function. -/
theorem eachRow_onPresent_eq_ok_iff {f : α → Except Failure β} {xs : List (Option α)}
    {ys : List (Option β)} :
    eachRow (onPresent f) xs = .ok ys ↔ Related (fun a b => f a = .ok b) xs ys := by
  have hrow : (fun x y => onPresent f x = .ok y) = Option.Rel fun a b => f a = .ok b := by
    funext x y
    cases x <;> cases y <;> simp [onPresent, except_map_eq_ok_iff]
  rw [eachRow_eq_ok_iff, Related, ← hrow, ← List.forall₂_eq_eq_eq, List.forall₂_map_left_iff,
    List.forall₂_map_right_iff]

theorem eachPair_onBothPresent_congr {f : α → α' → Except Failure γ} {g : β → β' → Except Failure γ}
    (hfg : ∀ a b a' b', R a b → S a' b' → f a a' = g b b') {xs : List (Option α)}
    {ys : List (Option β)} {xs' : List (Option α')} {ys' : List (Option β')} (h : Related R xs ys)
    (h' : Related S xs' ys') :
    eachPair (onBothPresent f) xs xs' = eachPair (onBothPresent g) ys ys' := by
  induction h generalizing xs' ys' with
  | nil => rfl
  | @cons x y xs ys hxy hrest ih =>
    cases h' with
    | nil => rfl
    | @cons x' y' xs' ys' hxy' hrest' =>
      have hrow : onBothPresent f x x' = onBothPresent g y y' := by
        cases hxy with
        | none => cases hxy' <;> rfl
        | some hab =>
          cases hxy' with
          | none => rfl
          | some hab' => exact congrArg (Except.map some) (hfg _ _ _ _ hab hab')
      have hrows := ih hrest'
      unfold eachPair at hrows ⊢
      rw [List.zip_cons_cons, List.zip_cons_cons, eachRow_cons, eachRow_cons, hrow, hrows]

end ColumnDispatch.Kernel
