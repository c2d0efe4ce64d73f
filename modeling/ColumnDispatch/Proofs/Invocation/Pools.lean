import ColumnDispatch.Proofs.Invocation.Calls
import ColumnDispatch.Proofs.Kernels.Rows

/-! Calls on a pool against the same calls on their own. In whatever order the pool finishes them,
all results stand in the order of the calls if every call succeeds, and otherwise the answer is the
failure of one of the calls, which may be any; so where all failures are alike it is that of the
calls made in turn. The calls that would finish after the first failure need not be made. -/

namespace ColumnDispatch

open Kernel

namespace Registry

/-! ### Results by place -/

section Places

variable {α : Type} {results : List (Nat × α)} {values : List α}

/-- The values of results, in the order of their places. -/
def byPlace (results : List (Nat × α)) : List α :=
  (results.mergeSort fun a b => a.1 ≤ b.1).map (·.2)

theorem mergeSort_perm_range {places : List Nat} {n : Nat} (h : places.Perm (List.range n)) :
    (places.mergeSort fun a b => a ≤ b) = List.range n := by
  have hperm : (places.mergeSort fun a b => a ≤ b).Perm (List.range n) :=
    (List.mergeSort_perm _ _).trans h
  have hsorted : (places.mergeSort fun a b => a ≤ b).Pairwise (· ≤ ·) := by
    refine (List.pairwise_mergeSort ?_ ?_ places).imp of_decide_eq_true
    · simpa using fun _ _ _ => Nat.le_trans
    · simpa using Nat.le_total
  have hrange : (List.range n).Pairwise (· ≤ ·) := List.pairwise_lt_range.imp Nat.le_of_lt
  exact hperm.eq_of_pairwise (fun a b _ _ => Nat.le_antisymm) hsorted hrange

theorem map_getElem?_range (values : List α) :
    (List.range values.length).map (values[·]?) = values.map some := by
  apply List.ext_getElem?
  intro i
  by_cases hi : i < values.length <;> simp [hi]

/-- Results that come with their places are put back there, in whatever order they come. -/
theorem byPlace_eq (hplaces : (results.map (·.1)).Perm (List.range values.length))
    (hvalues : ∀ p ∈ results, values[p.1]? = some p.2) : byPlace results = values := by
  have hsorted : (results.mergeSort fun a b => a.1 ≤ b.1).map (·.1) = List.range values.length := by
    rw [← mergeSort_perm_range hplaces]
    exact List.map_mergeSort fun _ _ _ _ => rfl
  have hcells : (byPlace results).map some = values.map some := calc
    (byPlace results).map some
      = (results.mergeSort fun a b => a.1 ≤ b.1).map fun p => values[p.1]? := by
        rw [byPlace, List.map_map]
        exact List.map_congr_left fun p hp => (hvalues p (List.mem_mergeSort.1 hp)).symm
    _ = (List.range values.length).map (values[·]?) := by
        rw [← hsorted, List.map_map]
        rfl
    _ = values.map some := map_getElem?_range values
  exact (List.map_inj_right fun _ _ => Option.some.inj).1 hcells

end Places

/-! ### Schedules -/

section Schedule

variable {α : Type} {call : α → Except Failure Batch} {calls : List α} {schedule : List Nat}

theorem mem_scheduled_iff {finished : Nat × Except Failure Batch} :
    finished ∈ scheduled schedule calls call ↔
      finished.1 ∈ schedule ∧ ∃ c, calls[finished.1]? = some c ∧ finished.2 = call c := by
  obtain ⟨place, outcome⟩ := finished
  simp only [scheduled, List.mem_filterMap, Option.map_eq_some_iff, Prod.mk.injEq]
  constructor
  · rintro ⟨_, hplace, c, hc, rfl, rfl⟩
    exact ⟨hplace, c, hc, rfl⟩
  · rintro ⟨hplace, c, hc, rfl⟩
    exact ⟨place, hplace, c, hc, rfl, rfl⟩

theorem mem_of_mem_scheduled {finished : Nat × Except Failure Batch}
    (h : finished ∈ scheduled schedule calls call) : ∃ c ∈ calls, call c = finished.2 := by
  obtain ⟨-, c, hc, houtcome⟩ := mem_scheduled_iff.1 h
  exact ⟨c, List.mem_of_getElem? hc, houtcome.symm⟩

/-- Every call of a schedule is made, at its place. -/
theorem places_scheduled (call : α → Except Failure Batch)
    (h : ∀ place ∈ schedule, place < calls.length) :
    (scheduled schedule calls call).map (·.1) = schedule := by
  induction schedule with
  | nil => rfl
  | cons place rest ih =>
    obtain ⟨hplace, hrest⟩ := List.forall_mem_cons.1 h
    have hcall := List.getElem?_eq_getElem hplace
    simp only [scheduled] at ih ⊢
    simp only [List.filterMap_cons, hcall, Option.map_some, List.map_cons, ih hrest]

theorem scheduled_append (begun rest : List Nat) :
    scheduled (begun ++ rest) calls call =
      scheduled begun calls call ++ scheduled rest calls call :=
  List.filterMap_append

end Schedule

/-! ### Pools -/

section Pool

variable {α : Type} {call : α → Except Failure Batch} {calls : List α} {schedule : List Nat}
  {rs : List Batch} {failure : Failure}

/-- The result of a call with the place of the call. -/
def placed (finished : Nat × Except Failure Batch) : Except Failure (Nat × Batch) :=
  finished.2.map (finished.1, ·)

theorem placed_eq_ok_iff {finished : Nat × Except Failure Batch} {p : Nat × Batch} :
    placed finished = .ok p ↔ finished = (p.1, .ok p.2) := by
  obtain ⟨place, outcome⟩ := finished
  obtain ⟨place', b⟩ := p
  simp [placed, except_map_eq_ok_iff, and_comm]

theorem eachRow_placed_eq_ok_iff {finished : List (Nat × Except Failure Batch)}
    {results : List (Nat × Batch)} :
    eachRow placed finished = .ok results ↔ finished = results.map fun p => (p.1, .ok p.2) := by
  simp only [eachRow_eq_ok_iff_forall₂, placed_eq_ok_iff]
  rw [← List.forall₂_map_right_iff, List.forall₂_eq_eq_eq]

theorem gather_eq (finished : List (Nat × Except Failure Batch)) :
    gather finished = (eachRow placed finished).map byPlace := by
  change (finished.mapM placed >>= fun results => pure (byPlace results)) = _
  rw [eachRow]
  cases finished.mapM placed <;> rfl

/-- One call that fails is enough for the pool to fail, however many succeed. -/
theorem exists_gather_ok_iff (hschedule : schedule.Perm (List.range calls.length)) :
    (∃ rs, gather (scheduled schedule calls call) = .ok rs) ↔ ∀ c ∈ calls, ∃ v, call c = .ok v := by
  simp only [gather_eq, exists_except_map_ok_iff, exists_eachRow_ok_iff]
  constructor
  · intro h c hc
    obtain ⟨i, hi⟩ := List.mem_iff_getElem?.1 hc
    have hplace : i ∈ schedule :=
      hschedule.mem_iff.2 (List.mem_range.2 (List.getElem?_eq_some_iff.1 hi).1)
    obtain ⟨p, hp⟩ := h (i, call c) (mem_scheduled_iff.2 ⟨hplace, c, hi, rfl⟩)
    exact ⟨p.2, (Prod.mk.inj (placed_eq_ok_iff.1 hp)).2⟩
  · intro h finished hfinished
    obtain ⟨c, hc, houtcome⟩ := mem_of_mem_scheduled hfinished
    obtain ⟨v, hv⟩ := h c hc
    exact ⟨(finished.1, v), placed_eq_ok_iff.2 (Prod.ext rfl (houtcome.symm.trans hv))⟩

/-- Calls that all succeed give their results in order. -/
theorem gather_of_ok (hschedule : schedule.Perm (List.range calls.length))
    (h : eachRow call calls = .ok rs) : gather (scheduled schedule calls call) = .ok rs := by
  obtain ⟨rs', hrs'⟩ := (exists_gather_ok_iff hschedule).2 (exists_eachRow_ok_iff.1 ⟨rs, h⟩)
  obtain ⟨results, hresults, rfl⟩ := except_map_eq_ok_iff.1 ((gather_eq _).symm.trans hrs')
  have hscheduled := eachRow_placed_eq_ok_iff.1 hresults
  have hplaces : results.map (·.1) = schedule := by
    have hbound : ∀ place ∈ schedule, place < calls.length := fun place hplace =>
      List.mem_range.1 (hschedule.mem_iff.1 hplace)
    rw [← places_scheduled call hbound, hscheduled, List.map_map]
    rfl
  have hvalues : ∀ p ∈ results, rs[p.1]? = some p.2 := by
    intro p hp
    have hmem : (p.1, .ok p.2) ∈ scheduled schedule calls call :=
      hscheduled ▸ List.mem_map_of_mem hp
    obtain ⟨-, c, (hc : calls[p.1]? = some c), (hv : .ok p.2 = call c)⟩ :=
      mem_scheduled_iff.1 hmem
    have hrow : rs[p.1]?.map Except.ok = some (.ok p.2 : Except Failure Batch) := by
      rw [← getElem?_of_eachRow h, hc, hv]
      rfl
    simpa using hrow
  have hlength : rs.length = calls.length := length_of_eachRow h
  rw [hrs', byPlace_eq (hlength ▸ hplaces ▸ hschedule) hvalues]

/-- A pool that fails does so for the reason of one of its calls. -/
theorem exists_call_of_gather_error (h : gather (scheduled schedule calls call) = .error failure) :
    ∃ c ∈ calls, call c = .error failure := by
  rw [gather_eq, except_map_eq_error_iff] at h
  obtain ⟨_, finished, hfinished, hplaced, -⟩ := exists_first_failure h
  obtain ⟨c, hc, houtcome⟩ := mem_of_mem_scheduled (List.mem_of_getElem? hfinished)
  exact ⟨c, hc, houtcome.trans (except_map_eq_error_iff.1 hplaced)⟩

/-- Once a call has failed, the calls that are still to come are of no consequence. -/
theorem gather_of_begun {begun : List Nat} (hbegun : begun <+: schedule)
    (h : gather (scheduled begun calls call) = .error failure) :
    gather (scheduled schedule calls call) = .error failure := by
  obtain ⟨rest, rfl⟩ := hbegun
  rw [gather_eq, except_map_eq_error_iff] at h
  rw [scheduled_append, gather_eq, eachRow_append_of_error h]
  rfl

/-- Whichever call fails, its failure is the answer in some order. -/
theorem exists_failing_schedule {c : α} (hc : c ∈ calls) (h : call c = .error failure) :
    ∃ schedule, schedule.Perm (List.range calls.length) ∧
      gather (scheduled schedule calls call) = .error failure := by
  obtain ⟨i, hi⟩ := List.mem_iff_getElem?.1 hc
  have hplace : i ∈ List.range calls.length :=
    List.mem_range.2 (List.getElem?_eq_some_iff.1 hi).1
  refine ⟨i :: (List.range calls.length).erase i, (List.perm_cons_erase hplace).symm, ?_⟩
  have hfirst : gather (scheduled [i] calls call) = .error failure := by
    rw [scheduled, List.filterMap_cons, hi]
    simp [gather, h, Except.map]
  exact gather_of_begun (List.prefix_append [i] _) hfirst

/-- What many independent calls owe, made in any order. -/
structure AnswersCalls (call : α → Except Failure Batch) (calls : List α)
    (answer : Except Failure (List Batch)) : Prop where
  /-- All results, each where its call is. -/
  ok_iff : ∀ rs, answer = .ok rs ↔ List.Forall₂ (fun c v => call c = .ok v) calls rs
  exists_ok_iff : (∃ rs, answer = .ok rs) ↔ ∀ c ∈ calls, ∃ v, call c = .ok v
  /-- Otherwise the failure of one of the calls. -/
  failed : ∀ failure, answer = .error failure → ∃ c ∈ calls, call c = .error failure
  /-- Calls that fail alike have the answer of the calls made in turn. -/
  alike : (∀ c ∈ calls, ∀ c' ∈ calls, ∀ failure failure', call c = .error failure →
    call c' = .error failure' → failure = failure') → answer = calls.mapM call

theorem answersCalls_gather (call : α → Except Failure Batch)
    (hschedule : schedule.Perm (List.range calls.length)) :
    AnswersCalls call calls (gather (scheduled schedule calls call)) where
  ok_iff rs := by
    rw [← eachRow_eq_ok_iff_forall₂]
    refine ⟨fun h => ?_, gather_of_ok hschedule⟩
    obtain ⟨rs', hrs'⟩ := exists_eachRow_ok_iff.2 ((exists_gather_ok_iff hschedule).1 ⟨rs, h⟩)
    rw [hrs', ← gather_of_ok hschedule hrs', h]
  exists_ok_iff := exists_gather_ok_iff hschedule
  failed _ := exists_call_of_gather_error
  alike halike := by
    change _ = eachRow call calls
    cases hturn : eachRow call calls with
    | ok rs => exact gather_of_ok hschedule hturn
    | error failure =>
      obtain ⟨_, c, hc, hfailure, -⟩ := exists_first_failure hturn
      have hc := List.mem_of_getElem? hc
      cases hanswer : gather (scheduled schedule calls call) with
      | ok rs =>
        obtain ⟨v, hv⟩ := (exists_gather_ok_iff hschedule).1 ⟨rs, hanswer⟩ c hc
        simp [hv] at hfailure
      | error failure' =>
        obtain ⟨c', hc', hfailure'⟩ := exists_call_of_gather_error hanswer
        rw [halike c' hc' c hc _ _ hfailure' hfailure]

end Pool

/-! ### Pooled calls -/

section Calls

variable {r : Registry} {v : Batch}

/-- A batch that passes the check is what the selected kernel gave. -/
theorem exists_kernel_of_checked {α : Type} {selected : Except Failure α} {op : Operator}
    {kernel : α → Except Failure Batch} {returns : α → LogicalType}
    (h : (selected.bind fun o => (kernel o).bind (r.checkReturnType op (returns o))) = .ok v) :
    ∃ o, selected = .ok o ∧ kernel o = .ok v := by
  cases selected with
  | error failure => cases h
  | ok o =>
    refine ⟨o, rfl, ?_⟩
    change (kernel o).bind (r.checkReturnType op (returns o)) = .ok v at h
    cases hkernel : kernel o with
    | error failure =>
      rw [hkernel] at h
      cases h
    | ok v' =>
      simp only [hkernel, Except.bind, checkReturnType_eq] at h
      split at h
      · cases h
      · exact h

theorem exists_resolved_of_invokeUnary {op : UnaryOperator} {operand : Batch}
    (h : (r.invokeUnary op operand).result = .ok v) :
    ∃ o, (r.resolveUnary op operand.type).result = .ok o ∧ o.kernel operand = .ok v := by
  rw [invokeUnary, Traced.bind_ofExcept] at h
  exact exists_kernel_of_checked h

theorem exists_resolved_of_invokeBinary {op : BinaryOperator} {left right : Batch}
    (h : (r.invokeBinary op left right).result = .ok v) :
    ∃ o, (r.resolveBinary op left.type right.type).result = .ok o ∧
      o.kernel left right = .ok v := by
  rw [invokeBinary, Traced.bind_ofExcept] at h
  exact exists_kernel_of_checked h

/-- Calls on a pool are the calls on their own, whatever the order in which it finishes them. -/
theorem pools_answer_calls (r : Registry) {schedule : List Nat} {n : Nat}
    (hschedule : schedule.Perm (List.range n)) :
    (∀ (op : UnaryOperator) (batches : List Batch), batches.length = n →
      let answer := r.parInvokeUnary op schedule batches
      AnswersCalls (fun b => (r.invokeUnary op b).result) batches answer ∧
      -- each batch goes to the overload of its own type
      (∀ rs, answer = .ok rs → List.Forall₂ (fun b v => ∃ o,
        (r.resolveUnary op b.type).result = .ok o ∧ o.kernel b = .ok v) batches rs) ∧
      -- calls that would come after a failure need not be made
      ∀ begun failure, begun <+: schedule →
        r.parInvokeUnary op begun batches = .error failure → answer = .error failure) ∧
    -- likewise each pair
    ∀ (op : BinaryOperator) (pairs : List (Batch × Batch)), pairs.length = n →
      let answer := r.parInvokeBinary op schedule pairs
      AnswersCalls (fun p => (r.invokeBinary op p.1 p.2).result) pairs answer ∧
      (∀ rs, answer = .ok rs → List.Forall₂ (fun p v => ∃ o,
        (r.resolveBinary op p.1.type p.2.type).result = .ok o ∧ o.kernel p.1 p.2 = .ok v)
        pairs rs) ∧
      ∀ begun failure, begun <+: schedule →
        r.parInvokeBinary op begun pairs = .error failure → answer = .error failure := by
  constructor
  · rintro op batches rfl
    have hanswer := answersCalls_gather (fun b => (r.invokeUnary op b).result) hschedule
    exact ⟨hanswer, fun rs hrs => ((hanswer.ok_iff rs).1 hrs).imp fun _ _ =>
      exists_resolved_of_invokeUnary, fun _ _ => gather_of_begun⟩
  · rintro op pairs rfl
    have hanswer := answersCalls_gather (fun p => (r.invokeBinary op p.1 p.2).result) hschedule
    exact ⟨hanswer, fun rs hrs => ((hanswer.ok_iff rs).1 hrs).imp fun _ _ =>
      exists_resolved_of_invokeBinary, fun _ _ => gather_of_begun⟩

/-- Batches of two types, finished out of order, and pairs of which one has no overload. -/
theorem pools_answer_calls_of_two_types :
    let integers : Registration := .unary ⟨.absolute, ⟨.int64⟩, .int64, fun operand => .ok operand⟩
    let texts : Registration := .unary ⟨.absolute, ⟨.string⟩, .string, fun operand => .ok operand⟩
    let sums : Registration :=
      .binary ⟨.plus, ⟨.int64, .int64⟩, .int64, fun left _ => .ok left⟩
    let r := (Builder.empty.run [integers, texts, sums]).freeze.1
    let one : Batch := .ofCells .int64 [some (1 : Int64)]
    let text : Batch := .ofCells .string [some "a"]
    let two : Batch := .ofCells .int64 [some (2 : Int64)]
    [2, 0, 1].Perm (List.range 3) ∧
      r.parInvokeUnary .absolute [2, 0, 1] [one, text, two] = .ok [one, text, two] ∧
      r.parInvokeBinary .plus [2, 0, 1] [(one, one), (one, text), (two, two)] =
        .error (.noMatchingOverload (.binary .plus) "INT64, STRING") := by
  intro integers texts sums r one text two
  have hschedule : [2, 0, 1].Perm (List.range 3) := by decide
  obtain ⟨hunary, hbinary⟩ := r.pools_answer_calls hschedule
  have hbatches := (hunary .absolute [one, text, two] rfl).1
  have hpairs := (hbinary .plus [(one, one), (one, text), (two, two)] rfl).1
  have hones : (r.invokeBinary .plus one one).result = .ok one := rfl
  have htwos : (r.invokeBinary .plus two two).result = .ok two := rfl
  have hfailed : ∀ p ∈ [(one, one), (one, text), (two, two)], ∀ failure,
      (r.invokeBinary .plus p.1 p.2).result = .error failure →
      failure = .noMatchingOverload (.binary .plus) "INT64, STRING" := by
    simp only [List.forall_mem_cons, List.not_mem_nil, false_implies, implies_true, and_true]
    refine ⟨fun _ h => ?_, fun _ h => (Except.error.inj h).symm, fun _ h => ?_⟩
    · cases hones.symm.trans h
    · cases htwos.symm.trans h
  refine ⟨hschedule, (hbatches.ok_iff _).2 (.cons rfl (.cons rfl (.cons rfl .nil))), ?_⟩
  exact hpairs.alike fun p hp p' hp' failure failure' h h' =>
    (hfailed p hp failure h).trans (hfailed p' hp' failure' h').symm

end Calls

end Registry

end ColumnDispatch
