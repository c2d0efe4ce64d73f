import ColumnDispatch.Proofs.OrderFree
import ColumnDispatch.Proofs.Registration.Runs
import ColumnDispatch.Registry.Resolve

/-! At most one overload fits any call. A fixed slot keeps every overload under its own signature,
and two overloads of a variadic slot that have a type in common have no argument count in common.
So a search of a slot finds the same overload in whatever order it looks, and the registry that a
builder becomes answers the same however its overloads were listed. -/

namespace ColumnDispatch

/-! ### Overloads of a consistent log -/

namespace Consistent

open Registration

variable {log : List Registration}

theorem unary (h : Consistent log) :
    (log.filterMap toUnary?).Pairwise fun o p => o.conflicts p = false := by
  refine h.apart.filterMap _ fun r s hrs o ho p hp => ?_
  cases r <;> cases s <;> simp_all [toUnary?, Registration.conflicts]

theorem binary (h : Consistent log) :
    (log.filterMap toBinary?).Pairwise fun o p => o.conflicts p = false := by
  refine h.apart.filterMap _ fun r s hrs o ho p hp => ?_
  cases r <;> cases s <;> simp_all [toBinary?, Registration.conflicts]

theorem variadic (h : Consistent log) :
    (log.filterMap toVariadic?).Pairwise fun o p => o.conflicts p = false := by
  refine h.apart.filterMap _ fun r s hrs o ho p hp => ?_
  cases r <;> cases s <;> simp_all [toVariadic?, Registration.conflicts]

theorem variadic_valid (h : Consistent log) {o : VariadicOverload}
    (ho : o ∈ log.filterMap toVariadic?) : o.signature.arity.isValid := by
  obtain ⟨r, hr, hro⟩ := List.mem_filterMap.1 ho
  cases r with
  | variadic p =>
    obtain rfl : p = o := Option.some.inj hro
    exact h.valid _ hr
  | unary p => simp [toVariadic?] at hro
  | binary p => simp [toVariadic?] at hro

end Consistent

/-! ### Slots -/

/-- Overloads of one operator that do not conflict have conflict-free signatures. -/
theorem pairwise_signatures {Op Sig Kernel : Type} [DecidableEq Op] [Signature Sig]
    {os : List (Overload Op Sig Kernel)} (h : os.Pairwise fun o p => o.conflicts p = false)
    (op : Op) :
    (os.filter (·.operator = op)).Pairwise fun o p =>
      Signature.conflicts o.signature p.signature = false := by
  refine (h.filter _).imp_of_mem fun {o p} ho hp hc => ?_
  have ho : o.operator = op := by simpa using (List.mem_filter.1 ho).2
  have hp : p.operator = op := by simpa using (List.mem_filter.1 hp).2
  simpa [Overload.conflicts, ho, hp] using hc

namespace FixedSlots

variable {Op Sig Kernel : Type} [Catalogue Op] [DecidableEq Op] [Signature Sig] [DecidableEq Sig]
variable {s : FixedSlots Op Sig Kernel} {log : List (Overload Op Sig Kernel)}

omit [Signature Sig] [DecidableEq Sig] in
theorem Holds.values (h : s.Holds log) (op : Op) :
    (s.get op).values = log.filter (·.operator = op) := by
  simp only [Keyed.values, h op, List.map_map, Function.comp_def, List.map_id']

omit [Signature Sig] [DecidableEq Sig] in
theorem Holds.key (h : s.Holds log) {op : Op} {k : Sig} {o : Overload Op Sig Kernel}
    (ho : (k, o) ∈ (s.get op).entries) : k = o.signature ∧ o.operator = op := by
  rw [h op] at ho
  obtain ⟨p, hp, hpo⟩ := List.mem_map.1 ho
  obtain ⟨rfl, rfl⟩ := Prod.mk.inj hpo
  exact ⟨rfl, by simpa using (List.mem_filter.1 hp).2⟩

theorem Holds.length_filter_le_one (hsame : ∀ s t : Sig, Signature.conflicts s t ↔ s = t)
    (h : s.Holds log) (hlog : log.Pairwise fun o p => o.conflicts p = false) (op : Op) (k : Sig) :
    ((s.get op).values.filter (·.signature = k)).length ≤ 1 := by
  rw [h.values]
  apply ColumnDispatch.length_filter_le_one
  refine (pairwise_signatures hlog op).imp fun {o p} hop => ?_
  rintro ⟨ho, hp⟩
  have hk : o.signature = p.signature := by simp_all
  simp [(hsame _ _).2 hk] at hop

end FixedSlots

namespace VariadicSlots

variable {s : VariadicSlots} {log : List VariadicOverload}

theorem Holds.disjoint (h : s.Holds log)
    (hlog : log.Pairwise fun o p => o.conflicts p = false) (op : VariadicOperator) :
    (s.get op).Pairwise fun o p => ∀ operand count,
      ¬(o.signature.accepts operand count ∧ p.signature.accepts operand count) := by
  rw [h op]
  refine (pairwise_signatures hlog op).imp fun {o p} hop operand count hboth => ?_
  have hc := VariadicSignature.conflicts_iff.2 ⟨operand, count, hboth⟩
  simp [hc] at hop

theorem Holds.length_filter_le_one (h : s.Holds log)
    (hlog : log.Pairwise fun o p => o.conflicts p = false) (op : VariadicOperator)
    (operand : LogicalType) (count : Nat) :
    ((s.get op).filter (·.signature.accepts operand count)).length ≤ 1 :=
  ColumnDispatch.length_filter_le_one ((h.disjoint hlog op).imp fun hop => hop operand count)

end VariadicSlots

/-! ### Searches -/

theorem expectedText_eq_of_perm {ranges ranges' : List Arity} (hp : ranges.Perm ranges') :
    expectedText ranges = expectedText ranges' := by
  have hsorted := mergeSort_eq_of_perm id hp fun _ _ _ _ h => h
  simp only [id] at hsorted
  simp only [expectedText, hsorted]

namespace Registry

variable {op : VariadicOperator} {os os' : List VariadicOverload} {operand : LogicalType}
  {count : Nat}

/-- The order of a search is not seen if at most one overload fits the call. -/
theorem selectVariadic_eq_of_perm (hp : os.Perm os')
    (hone : (os.filter (·.signature.accepts operand count)).length ≤ 1) :
    selectVariadic op os operand count = selectVariadic op os' operand count := by
  have hcandidates : (os.filter (·.signature.operand = operand)).Perm
      (os'.filter (·.signature.operand = operand)) := hp.filter _
  have hranges := expectedText_eq_of_perm (hcandidates.map (·.signature.arity))
  simp only [selectVariadic, find?_candidates, find?_eq_of_perm hp hone, hranges,
    hcandidates.isEmpty_eq]

end Registry

/-! ### Reached builders -/

/-- At most one overload of the tables fits any call. -/
structure Tables.Unambiguous (t : Tables) : Prop where
  unary_key : ∀ op k o, (k, o) ∈ (t.unary.get op).entries → k = o.signature ∧ o.operator = op
  binary_key : ∀ op k o, (k, o) ∈ (t.binary.get op).entries → k = o.signature ∧ o.operator = op
  variadic_operator : ∀ op, ∀ o ∈ t.variadic.get op, o.operator = op
  valid : ∀ op, ∀ o ∈ t.variadic.get op, ∀ max ∈ o.signature.arity.max, o.signature.arity.min ≤ max
  disjoint : ∀ op, (t.variadic.get op).Pairwise fun o p =>
    o.signature.operand = p.signature.operand →
      ∀ count, ¬(o.signature.arity.contains count ∧ p.signature.arity.contains count)
  unary_one : ∀ op operand, ((t.unary.get op).values.filter (·.signature = ⟨operand⟩)).length ≤ 1
  binary_one : ∀ op left right,
    ((t.binary.get op).values.filter (·.signature = ⟨left, right⟩)).length ≤ 1
  variadic_one : ∀ op operand count,
    ((t.variadic.get op).filter (·.signature.accepts operand count)).length ≤ 1

namespace Builder

theorem Records.tables_unambiguous {b : Builder} {log : List Registration} (h : Records b log) :
    b.tables.Unambiguous where
  unary_key _ _ _ := h.holds.unary.key
  binary_key _ _ _ := h.holds.binary.key
  variadic_operator op o ho := by
    rw [h.holds.variadic op] at ho
    simpa using (List.mem_filter.1 ho).2
  valid op o ho max hmax := by
    rw [h.holds.variadic op] at ho
    have hvalid := h.consistent.variadic_valid (List.mem_filter.1 ho).1
    exact Arity.isValid_iff.1 hvalid max hmax
  disjoint op := by
    refine (h.holds.variadic.disjoint h.consistent.variadic op).imp fun {o p} hop htype count => ?_
    rintro ⟨ho, hp⟩
    exact hop o.signature.operand count (by simp [VariadicSignature.accepts, ho, hp, htype])
  unary_one op operand :=
    h.holds.unary.length_filter_le_one (fun _ _ => UnarySignature.conflicts_iff)
      h.consistent.unary op _
  binary_one op left right :=
    h.holds.binary.length_filter_le_one (fun _ _ => BinarySignature.conflicts_iff)
      h.consistent.binary op _
  variadic_one := h.holds.variadic.length_filter_le_one h.consistent.variadic

/-- The tables of a reached builder are unambiguous, those of the registry it becomes are the same,
and a search of a variadic slot may look in any order. -/
theorem Reached.unambiguous {b : Builder} {log : List Registration} (h : Reached b log) :
    b.tables.Unambiguous ∧ b.freeze.1.tables.Unambiguous ∧
      ∀ op scan operand count, scan.Perm (b.freeze.1.tables.variadic.get op) →
        Registry.selectVariadic op scan operand count =
          b.freeze.1.resolveVariadic op operand count := by
  have hone := h.records.tables_unambiguous
  refine ⟨hone, hone, fun op scan operand count hp => ?_⟩
  exact (Registry.selectVariadic_eq_of_perm hp.symm (hone.variadic_one op operand count)).symm

/-- The built-in overloads after a range that stops them from all being registered. -/
theorem unambiguous_of_taken :
    let taken : Registration :=
      .variadic ⟨.concat, ⟨.string, .between 0 2⟩, .string, Kernel.concat⟩
    let b := (empty.register taken).builder.registerBuiltins.builder
    b.tables.Unambiguous ∧ b.freeze.1.tables.Unambiguous := by
  intro taken b
  have hb : Reached b _ := .registerBuiltins (.register (.start {}) taken)
  exact ⟨hb.unambiguous.1, hb.unambiguous.2.1⟩

end Builder

end ColumnDispatch
