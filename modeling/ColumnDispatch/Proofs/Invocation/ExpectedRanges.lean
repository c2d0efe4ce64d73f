import ColumnDispatch.Proofs.Invocation.Variadic
import ColumnDispatch.Proofs.Texts
import Mathlib

/-! The ranges that an arity mismatch lists. Its text joins the ranges of the overloads that were
looked at, each once and in order, so it tells exactly which ranges these are. The overloads of one
type share no count: their ranges are apart, and only the last can be unbounded. Those of several
types may have a range in common, which is listed once. -/

namespace ColumnDispatch

/-! ### The text -/

section Text

variable {ranges ranges' : List Arity}

/-- Each range once, in order. -/
def Arity.listed (ranges : List Arity) : List Arity :=
  (ranges.mergeSort fun a b => (compare a b).isLE).eraseDups

theorem expectedText_eq (ranges : List Arity) :
    expectedText ranges = " or ".intercalate ((Arity.listed ranges).map toString) := rfl

theorem Arity.mem_listed_iff {a : Arity} : a ∈ listed ranges ↔ a ∈ ranges := by
  rw [listed, List.mem_eraseDups, List.mem_mergeSort]

theorem Arity.pairwise_listed (ranges : List Arity) : (listed ranges).Pairwise Precedes :=
  (pairwise_lt_eraseDups_mergeSort ranges).imp compare_eq_lt_iff.1

/-- Ranges in strict order are listed as they are. -/
theorem Arity.listed_of_pairwise (h : ranges.Pairwise Precedes) : listed ranges = ranges :=
  (pairwise_listed ranges).eq_of_mem_iff h fun _ => mem_listed_iff

/-- The text tells which ranges are listed. -/
theorem expectedText_eq_iff :
    expectedText ranges = expectedText ranges' ↔ ∀ a, a ∈ ranges ↔ a ∈ ranges' := by
  rw [expectedText_eq, expectedText_eq]
  constructor
  · intro htext a
    have hlisted : Arity.listed ranges = Arity.listed ranges' := ranges_injective htext
    rw [← Arity.mem_listed_iff, hlisted, Arity.mem_listed_iff]
  · intro hsame
    have hlisted : Arity.listed ranges = Arity.listed ranges' :=
      (Arity.pairwise_listed ranges).eq_of_mem_iff (Arity.pairwise_listed ranges') fun a => by
        rw [Arity.mem_listed_iff, Arity.mem_listed_iff, hsame]
    rw [hlisted]

end Text

/-! ### Mismatches -/

namespace Registry

variable {r : Registry} {op : VariadicOperator} {operand : LogicalType} {count : Nat}
  {failed : Operator} {expected : String} {actual : Nat}

/-- The ranges of the operator's overloads for a type, or of all its overloads. -/
def ranges (r : Registry) (op : VariadicOperator) (operand? : Option LogicalType) : List Arity :=
  ((r.variadicOverloads op).filter fun o => operand?.all (o.signature.operand = ·)).map
    (·.signature.arity)

/-- Whether resolution fails with the text for some number of operands of a type, or for none. -/
def Mismatch (r : Registry) (op : VariadicOperator) (expected : String) :
    Option LogicalType → Prop
  | some operand => ∃ count, (r.resolveVariadic op operand count).result =
      .error (.arityMismatch (.variadic op) expected count)
  | none => (r.resolveNullary op).result = .error (.arityMismatch (.variadic op) expected 0)

theorem ranges_perm (r : Registry) (op : VariadicOperator) (operand? : Option LogicalType) :
    (r.ranges op operand?).Perm
      (((r.tables.variadic.get op).filter fun o => operand?.all (o.signature.operand = ·)).map
        (·.signature.arity)) :=
  ((variadicOverloads_perm r op).filter _).map _

theorem forall_mem_ranges_iff {operand? : Option LogicalType} {P : Arity → Prop} :
    (∀ a ∈ r.ranges op operand?, P a) ↔
      ∀ o ∈ r.tables.variadic.get op, operand?.all (o.signature.operand = ·) →
        P o.signature.arity := by
  simp only [(r.ranges_perm op operand?).mem_iff, List.forall_mem_map, List.mem_filter, and_imp]

theorem resolveVariadic_eq_mismatch (h : (r.resolveVariadic op operand count).result =
      .error (.arityMismatch failed expected actual)) :
    failed = .variadic op ∧ actual = count ∧ expected = expectedText (r.ranges op (some operand)) ∧
      ∀ a ∈ r.ranges op (some operand), ¬a.contains count := by
  have hranges := r.ranges_perm op (some operand)
  rw [resolveVariadic, selectVariadic] at h
  split at h
  · cases h
  · rename_i hnone
    split at h
    · cases h
    · obtain ⟨rfl, rfl, rfl⟩ := Failure.arityMismatch.inj (Except.error.inj h)
      refine ⟨rfl, rfl, (expectedText_eq_of_perm hranges).symm, forall_mem_ranges_iff.2 ?_⟩
      intro o ho hoperand
      exact List.find?_eq_none.1 hnone o (List.mem_filter.2 ⟨ho, hoperand⟩)

theorem resolveNullary_eq_mismatch (h : (r.resolveNullary op).result =
      .error (.arityMismatch failed expected actual)) :
    failed = .variadic op ∧ actual = 0 ∧ expected = expectedText (r.ranges op none) ∧
      ∀ a ∈ r.ranges op none, ¬a.contains 0 := by
  have hranges := r.ranges_perm op none
  rw [resolveNullary, selectNullary] at h
  split at h
  · cases h
  · split at h
    · rename_i hnone
      obtain ⟨rfl, rfl, rfl⟩ := Failure.arityMismatch.inj (Except.error.inj h)
      simp only [Option.all_none, List.filter_true] at hranges
      rw [Bool.and_eq_true, List.isEmpty_iff, List.filter_eq_nil_iff] at hnone
      exact ⟨rfl, rfl, (expectedText_eq_of_perm hranges).symm,
        forall_mem_ranges_iff.2 fun o ho _ => hnone.1 o ho⟩
    · cases h

theorem Mismatch.text {operand? : Option LogicalType} (h : r.Mismatch op expected operand?) :
    expected = expectedText (r.ranges op operand?) := by
  cases operand? with
  | some operand =>
    obtain ⟨count, hcount⟩ := h
    exact (resolveVariadic_eq_mismatch hcount).2.2.1
  | none => exact (resolveNullary_eq_mismatch h).2.2.1

/-- A call without operands fails with a mismatch of its own or with the failure of a kernel. -/
theorem invokeVariadic_nil_eq_mismatch (h : (r.invokeVariadic op []).result =
      .error (.arityMismatch failed expected actual)) :
    (∃ o, (r.resolveNullary op).result = .ok o ∧
      o.kernel [] = .error (.arityMismatch failed expected actual)) ∨
    (r.resolveNullary op).result = .error (.arityMismatch failed expected actual) := by
  rw [result_invokeVariadic_nil] at h
  cases hselect : (r.resolveNullary op).result with
  | error failure =>
    rw [hselect] at h
    exact .inr (congrArg _ (Except.error.inj h))
  | ok o =>
    rw [hselect] at h
    refine .inl ⟨o, rfl, ?_⟩
    cases hkernel : o.kernel [] with
    | error failure =>
      simp only [Except.bind, hkernel] at h
      exact congrArg _ (Except.error.inj h)
    | ok batch =>
      simp only [Except.bind, hkernel, checkReturnType] at h
      split at h <;> cases h

end Registry

/-! ### Reached registries -/

namespace Builder

variable {b : Builder} {log : List Registration}

theorem Reached.isValid_ranges (h : Reached b log) (op : VariadicOperator)
    (operand? : Option LogicalType) : ∀ a ∈ b.freeze.1.ranges op operand?, a.isValid := by
  refine Registry.forall_mem_ranges_iff.2 fun o ho _ => ?_
  exact Arity.isValid_iff.2 (h.records.tables_unambiguous.valid op o ho)

/-- The ranges for one type are in order and apart. -/
theorem Reached.pairwise_ranges (h : Reached b log) (op : VariadicOperator)
    (operand : LogicalType) :
    (b.freeze.1.ranges op (some operand)).Pairwise fun a c =>
      a.Precedes c ∧ ∃ m ∈ a.max, m < c.min := by
  let r := b.freeze.1
  have hordered : (r.variadicOverloads op).Pairwise fun o p =>
      (Registration.variadic o).Precedes (.variadic p) :=
    List.pairwise_map.1
      (Registry.pairwise_overloads (r := r) h.records.holds h.records.consistent (.variadic op))
  have hapart := ((r.variadicOverloads_perm op).pairwise_iff fun hop hsame count hboth =>
    hop hsame.symm count hboth.symm).2 (h.records.tables_unambiguous.disjoint op)
  refine List.pairwise_map.2 (((hordered.and hapart).filter _).imp_of_mem ?_)
  intro o p ho hp hop
  obtain ⟨hprecedes, hdisjoint⟩ := hop
  have hsame : o.signature.operand = p.signature.operand := by
    have ho := (List.mem_filter.1 ho).2
    have hp := (List.mem_filter.1 hp).2
    simp only [Option.all_some, decide_eq_true_eq] at ho hp
    exact ho.trans hp.symm
  have harity : o.signature.arity.Precedes p.signature.arity := by
    rcases hprecedes with hlt | ⟨-, harity⟩
    · rw [hsame] at hlt
      exact absurd hlt (Nat.lt_irrefl _)
    · exact harity
  have hvalid : p.signature.arity.isValid :=
    h.isValid_ranges op (some operand) _ (List.mem_map.2 ⟨p, hp, rfl⟩)
  exact ⟨harity, Arity.exists_max_lt_min hvalid harity.min_le (hdisjoint hsame _)⟩

/-- An arity mismatch lists the ranges that were looked at. A query for a type lists those of the
type, which are apart; a call without operands lists those of all types, none of which reaches down
to no operands, unless a kernel ran and the mismatch is its own. No other ranges have the text. -/
theorem Reached.mismatch_lists_ranges (h : Reached b log) :
    let r := b.freeze.1
    -- queries for a type
    (∀ op operand count failed expected actual,
      (r.resolveVariadic op operand count).result =
          .error (.arityMismatch failed expected actual) →
        failed = .variadic op ∧ actual = count ∧ r.Mismatch op expected (some operand) ∧
        expected = " or ".intercalate ((r.ranges op (some operand)).map toString) ∧
        ((r.ranges op (some operand)).Pairwise fun a c =>
          a.Precedes c ∧ ∃ m ∈ a.max, m < c.min) ∧
        ∀ a ∈ r.ranges op (some operand), ¬a.contains count) ∧
    -- calls without operands
    (∀ op failed expected actual,
      (r.invokeVariadic op []).result = .error (.arityMismatch failed expected actual) →
        (∃ o, (r.resolveNullary op).result = .ok o ∧
          o.kernel [] = .error (.arityMismatch failed expected actual)) ∨
        (failed = .variadic op ∧ actual = 0 ∧ r.Mismatch op expected none ∧
          ∃ listed : List Arity, expected = " or ".intercalate (listed.map toString) ∧
            (∀ a, a ∈ listed ↔ a ∈ r.ranges op none) ∧ listed.Pairwise Arity.Precedes ∧
            ∀ a ∈ listed, 1 ≤ a.min)) ∧
    -- what the text tells
    ∀ op operand? expected, r.Mismatch op expected operand? →
      ∀ (r' : Registry) op' operand?' expected', r'.Mismatch op' expected' operand?' →
        (expected = expected' ↔ ∀ a, a ∈ r.ranges op operand? ↔ a ∈ r'.ranges op' operand?') := by
  intro r
  refine ⟨?_, ?_, ?_⟩
  · intro op operand count failed expected actual herror
    obtain ⟨rfl, rfl, htext, hnone⟩ := Registry.resolveVariadic_eq_mismatch herror
    have hpairwise := h.pairwise_ranges op operand
    have hlisted := Arity.listed_of_pairwise (hpairwise.imp And.left)
    refine ⟨rfl, rfl, ⟨_, herror⟩, ?_, hpairwise, hnone⟩
    rw [htext, expectedText_eq, hlisted]
  · intro op failed expected actual herror
    refine (Registry.invokeVariadic_nil_eq_mismatch herror).imp_right fun hdispatch => ?_
    obtain ⟨rfl, rfl, htext, hnone⟩ := Registry.resolveNullary_eq_mismatch hdispatch
    refine ⟨rfl, rfl, hdispatch, Arity.listed (r.ranges op none), htext,
      fun _ => Arity.mem_listed_iff, Arity.pairwise_listed _, fun a ha => ?_⟩
    have ha := Arity.mem_listed_iff.1 ha
    have hmin := Arity.contains_min (h.isValid_ranges op none a ha)
    refine Nat.one_le_iff_ne_zero.2 fun hzero => hnone a ha ?_
    rwa [hzero] at hmin
  · intro op operand? expected hmismatch r' op' operand?' expected' hmismatch'
    rw [hmismatch.text, hmismatch'.text]
    exact expectedText_eq_iff

/-- Text ranges of which one is also a range of truth values: with operands or without, the same
ranges are listed. -/
theorem mismatch_lists_ranges_of_shared_range :
    let many : Registration := .variadic ⟨.concat, ⟨.string, .atLeast 6⟩, .string, Kernel.concat⟩
    let few : Registration := .variadic ⟨.concat, ⟨.string, .between 2 3⟩, .string, Kernel.concat⟩
    let flags : Registration := .variadic ⟨.concat, ⟨.bool, .between 2 3⟩, .bool, Kernel.concat⟩
    let r := (empty.run [many, few, flags]).freeze.1
    let text := "2 to 3 or at least 6"
    (r.resolveVariadic .concat .string 4).result =
        .error (.arityMismatch (.variadic .concat) text 4) ∧
      (r.invokeVariadic .concat []).result =
        .error (.arityMismatch (.variadic .concat) text 0) ∧
      r.Mismatch .concat text (some .string) ∧ r.Mismatch .concat text none ∧
      text = " or ".intercalate ((r.ranges .concat (some .string)).map toString) ∧
      ∀ a, a ∈ r.ranges .concat (some .string) ↔ a ∈ r.ranges .concat none := by
  intro many few flags r text
  have hb : Reached (empty.run [many, few, flags]) [many, few, flags] :=
    .register (.register (.register (.start {}) many) few) flags
  have htyped : (r.resolveVariadic .concat .string 4).result =
      .error (.arityMismatch (.variadic .concat) text 4) := by cbv
  have hcall : (r.invokeVariadic .concat []).result =
      .error (.arityMismatch (.variadic .concat) text 0) := by cbv
  have hdispatch : (r.resolveNullary .concat).result =
      .error (.arityMismatch (.variadic .concat) text 0) := by cbv
  obtain ⟨htypes, -, htells⟩ := hb.mismatch_lists_ranges
  obtain ⟨-, -, hmismatch, hjoin, -⟩ := htypes _ _ _ _ _ _ htyped
  exact ⟨htyped, hcall, hmismatch, hdispatch, hjoin,
    (htells _ _ _ hmismatch r .concat none text hdispatch).1 rfl⟩

end Builder

end ColumnDispatch
