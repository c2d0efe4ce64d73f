import ColumnDispatch.Proofs.Registration.SharedCounts
import ColumnDispatch.Registry.Tables

/-! Registrations against a log of the ones before. A registration is refused if its range of
argument counts has crossed bounds, or else if a registration of the log conflicts with it, and then
the earliest one is named. Tables hold a log if each slot lists the overloads of its operator in the
order of the log. The main statement is `Tables.Holds.register`: on tables that hold a log, the
answer of `register` is the one read off the log, and what it leaves holds the longer log. -/

namespace ColumnDispatch

/-! ### Conflicts -/

/-- Whether some call fits both overloads. -/
def Overload.conflicts {Op Sig Kernel : Type} [DecidableEq Op] [Signature Sig]
    (o p : Overload Op Sig Kernel) : Bool :=
  o.operator = p.operator && Signature.conflicts o.signature p.signature

namespace Registration

def toUnary? : Registration → Option UnaryOverload
  | .unary o => some o
  | _ => none

def toBinary? : Registration → Option BinaryOverload
  | .binary o => some o
  | _ => none

def toVariadic? : Registration → Option VariadicOverload
  | .variadic o => some o
  | _ => none

/-- Whether the registrations are of one class and some call fits both. -/
def conflicts (r : Registration) : Registration → Bool
  | .unary o => r.toUnary?.any (·.conflicts o)
  | .binary o => r.toBinary?.any (·.conflicts o)
  | .variadic o => r.toVariadic?.any (·.conflicts o)

/-- Whether the bounds on the argument count, if there are any, are in order. -/
def hasValidArity : Registration → Bool
  | .variadic o => o.signature.arity.isValid
  | _ => true

end Registration

theorem Overload.conflicts_comm {Op Sig Kernel : Type} [DecidableEq Op] [Signature Sig]
    (hs : ∀ s t : Sig, Signature.conflicts s t = Signature.conflicts t s)
    (o p : Overload Op Sig Kernel) : o.conflicts p = p.conflicts o := by
  simp only [conflicts, hs o.signature, eq_comm (a := o.operator)]

namespace Registration

/-! ### Classes -/

theorem toUnary?_eq_some_iff {r : Registration} {o : UnaryOverload} :
    r.toUnary? = some o ↔ r = .unary o := by
  cases r <;> simp [toUnary?]

theorem toBinary?_eq_some_iff {r : Registration} {o : BinaryOverload} :
    r.toBinary? = some o ↔ r = .binary o := by
  cases r <;> simp [toBinary?]

theorem toVariadic?_eq_some_iff {r : Registration} {o : VariadicOverload} :
    r.toVariadic? = some o ↔ r = .variadic o := by
  cases r <;> simp [toVariadic?]

section Search

variable (log : List Registration)

theorem find?_class {α : Type} {toClass : Registration → Option α} {ofClass : α → Registration}
    (h : ∀ r a, toClass r = some a ↔ r = ofClass a) (test : α → Bool) :
    log.find? (fun r => (toClass r).any test) =
      ((log.filterMap toClass).find? test).map ofClass := by
  rw [List.find?_filterMap]
  cases hf : log.find? fun r => (toClass r).any test with
  | none => rfl
  | some r =>
    have hr := List.find?_some hf
    obtain ⟨a, ha, -⟩ := (Option.any_eq_true _ _).1 hr
    rw [Option.bind_some, ha, Option.map_some, (h r a).1 ha]

theorem find?_unary (test : UnaryOverload → Bool) :
    log.find? (fun r => r.toUnary?.any test) =
      ((log.filterMap toUnary?).find? test).map .unary :=
  find?_class log (fun _ _ => toUnary?_eq_some_iff) test

theorem find?_binary (test : BinaryOverload → Bool) :
    log.find? (fun r => r.toBinary?.any test) =
      ((log.filterMap toBinary?).find? test).map .binary :=
  find?_class log (fun _ _ => toBinary?_eq_some_iff) test

theorem find?_variadic (test : VariadicOverload → Bool) :
    log.find? (fun r => r.toVariadic?.any test) =
      ((log.filterMap toVariadic?).find? test).map .variadic :=
  find?_class log (fun _ _ => toVariadic?_eq_some_iff) test

end Search

theorem conflicts_comm (r s : Registration) : r.conflicts s = s.conflicts r := by
  cases r <;> cases s <;> try rfl
  · exact Overload.conflicts_comm UnarySignature.conflicts_comm ..
  · exact Overload.conflicts_comm BinarySignature.conflicts_comm ..
  · exact Overload.conflicts_comm VariadicSignature.conflicts_comm ..

theorem conflicts_unary_iff {r : Registration} {o : UnaryOverload} :
    r.conflicts (.unary o) ↔
      ∃ p, r = .unary p ∧ p.operator = o.operator ∧ p.signature = o.signature := by
  cases r <;> simp [conflicts, Overload.conflicts, toUnary?, UnarySignature.conflicts_iff]

theorem conflicts_binary_iff {r : Registration} {o : BinaryOverload} :
    r.conflicts (.binary o) ↔
      ∃ p, r = .binary p ∧ p.operator = o.operator ∧ p.signature = o.signature := by
  cases r <;> simp [conflicts, Overload.conflicts, toBinary?, BinarySignature.conflicts_iff]

theorem conflicts_variadic_iff {r : Registration} {o : VariadicOverload} :
    r.conflicts (.variadic o) ↔
      ∃ p, r = .variadic p ∧ p.operator = o.operator ∧
        p.signature.operand = o.signature.operand ∧
        ∃ count, p.signature.arity.contains count ∧ o.signature.arity.contains count := by
  cases r <;>
    simp [conflicts, Overload.conflicts, toVariadic?, VariadicSignature.conflicts_iff_exists_count]

theorem operator_eq_of_conflicts {r s : Registration} (h : r.conflicts s) :
    r.operator = s.operator := by
  cases s with
  | unary o =>
    obtain ⟨p, rfl, hop, -⟩ := conflicts_unary_iff.1 h
    exact congrArg Operator.unary hop
  | binary o =>
    obtain ⟨p, rfl, hop, -⟩ := conflicts_binary_iff.1 h
    exact congrArg Operator.binary hop
  | variadic o =>
    obtain ⟨p, rfl, hop, -⟩ := conflicts_variadic_iff.1 h
    exact congrArg Operator.variadic hop

/-- A registration that may be accepted is in the way of another one like it. -/
theorem conflicts_self {r : Registration} (h : r.hasValidArity) : r.conflicts r := by
  cases r with
  | unary o => exact conflicts_unary_iff.2 ⟨o, rfl, rfl, rfl⟩
  | binary o => exact conflicts_binary_iff.2 ⟨o, rfl, rfl, rfl⟩
  | variadic o =>
    have hself := VariadicSignature.conflicts_self_iff.2 h
    simp [conflicts, Overload.conflicts, toVariadic?, hself]

/-! ### Refusals -/

/-- The failure of a registration that finds an earlier one in its way. -/
def duplicateOf (r earlier : Registration) : Failure :=
  match r, earlier with
  | .variadic o, .variadic p =>
    .duplicateSignature r.operator s!"{o.signature} overlaps {p.signature}"
  | _, _ => .duplicateSignature r.operator r.signatureText

/-- The earliest registration of a log that is in the way of another one. -/
def obstacle? (log : List Registration) (r : Registration) : Option Registration :=
  log.find? (·.conflicts r)

/-- Why a registration is refused after those of a log, if it is. -/
def refusal? (log : List Registration) (r : Registration) : Option Failure :=
  match r with
  | .variadic o =>
    let arity := o.signature.arity
    if arity.isValid then (obstacle? log r).map r.duplicateOf
    else some (.invalidArity r.operator arity.min (arity.max.getD 0))
  | _ => (obstacle? log r).map r.duplicateOf

theorem refusal?_of_valid {log : List Registration} {r : Registration} (h : r.hasValidArity) :
    refusal? log r = (obstacle? log r).map r.duplicateOf := by
  cases r with
  | unary o => rfl
  | binary o => rfl
  | variadic o => exact if_pos h

theorem obstacle?_eq_none_iff {log : List Registration} {r : Registration} :
    obstacle? log r = none ↔ ∀ p ∈ log, p.conflicts r = false := by
  simp [obstacle?]

theorem conflicts_of_obstacle? {log : List Registration} {r p : Registration}
    (h : obstacle? log r = some p) : p ∈ log ∧ p.conflicts r := by
  have hp := List.find?_some (show log.find? (fun p => p.conflicts r) = some p from h)
  exact ⟨List.mem_of_find?_eq_some h, hp⟩

theorem refusal?_eq_none_iff {log : List Registration} {r : Registration} :
    refusal? log r = none ↔ r.hasValidArity ∧ ∀ p ∈ log, p.conflicts r = false := by
  by_cases h : r.hasValidArity
  · rw [refusal?_of_valid h, Option.map_eq_none_iff, obstacle?_eq_none_iff]
    simp only [h, true_and]
  · cases r with
    | unary o => exact absurd rfl h
    | binary o => exact absurd rfl h
    | variadic o =>
      have harity : ¬o.signature.arity.isValid := h
      simp [refusal?, harity, hasValidArity]

/-- What is in the way of a registration is on its operator. -/
theorem refusal?_filter_operator (log : List Registration) {r : Registration} {op : Operator}
    (h : r.operator = op) : refusal? (log.filter (·.operator = op)) r = refusal? log r := by
  have hobstacle : obstacle? (log.filter (·.operator = op)) r = obstacle? log r := by
    rw [obstacle?, obstacle?, List.find?_filter]
    congr 1
    funext p
    by_cases hp : p.conflicts r
    · simp [hp, operator_eq_of_conflicts hp, h]
    · simp [hp]
  cases r <;> simp only [refusal?, hobstacle]

end Registration

/-- A log that could have been accepted: bounds are in order and no two registrations conflict. -/
structure Consistent (log : List Registration) : Prop where
  valid : ∀ r ∈ log, r.hasValidArity
  apart : log.Pairwise fun r s => r.conflicts s = false

namespace Consistent

theorem nil : Consistent [] := ⟨by simp, .nil⟩

theorem snoc {log : List Registration} {r : Registration} (h : Consistent log)
    (hr : Registration.refusal? log r = none) : Consistent (log ++ [r]) := by
  obtain ⟨hv, hc⟩ := Registration.refusal?_eq_none_iff.1 hr
  constructor
  · intro p hp
    rcases List.mem_append.1 hp with hp | hp
    · exact h.valid p hp
    · exact List.mem_singleton.1 hp ▸ hv
  · refine List.pairwise_append.2 ⟨h.apart, List.pairwise_singleton _ _, ?_⟩
    intro p hp q hq
    exact List.mem_singleton.1 hq ▸ hc p hp

theorem refusal?_eq_none {log rest : List Registration} {r : Registration}
    (h : Consistent (log ++ r :: rest)) : Registration.refusal? log r = none := by
  refine Registration.refusal?_eq_none_iff.2 ⟨h.valid r (by simp), fun p hp => ?_⟩
  exact (List.pairwise_append.1 h.apart).2.2 p hp r List.mem_cons_self

theorem sublist {log log' : List Registration} (h : Consistent log) (hs : log'.Sublist log) :
    Consistent log' :=
  ⟨fun r hr => h.valid r (hs.subset hr), h.apart.sublist hs⟩

theorem perm {log log' : List Registration} (h : Consistent log) (hp : log.Perm log') :
    Consistent log' := by
  refine ⟨fun r hr => h.valid r (hp.symm.subset hr), (hp.pairwise_iff ?_).1 h.apart⟩
  intro r s hrs
  rw [Registration.conflicts_comm, hrs]

end Consistent

/-! ### Tables that hold a log -/

namespace FixedSlots

variable {Op Sig Kernel : Type} [Catalogue Op] [DecidableEq Op] [Signature Sig] [DecidableEq Sig]

/-- Every slot lists the overloads of its operator, in order, under their own signatures. -/
def Holds (s : FixedSlots Op Sig Kernel) (log : List (Overload Op Sig Kernel)) : Prop :=
  ∀ op, (s.get op).entries = (log.filter (·.operator = op)).map fun o => (o.signature, o)

variable {s : FixedSlots Op Sig Kernel} {log : List (Overload Op Sig Kernel)}

theorem Holds.contains (hsame : ∀ s t : Sig, Signature.conflicts s t ↔ s = t) (h : s.Holds log)
    (o : Overload Op Sig Kernel) :
    (s.get o.operator).contains o.signature = (log.find? (·.conflicts o)).isSome := by
  rw [Bool.eq_iff_iff, Keyed.contains_iff, h, List.find?_isSome]
  simp [Overload.conflicts, hsame, and_assoc]

/-- What a registration does to slots that hold a log. -/
theorem Holds.register (hsame : ∀ s t : Sig, Signature.conflicts s t ↔ s = t) (h : s.Holds log)
    (o : Overload Op Sig Kernel) :
    match log.find? (·.conflicts o) with
    | some _ => s.register o =
        .error (.duplicateSignature (Catalogue.toOperator o.operator) (toString o.signature))
    | none => ∃ s', s.register o = .ok s' ∧ Holds s' (log ++ [o]) := by
  have hc := h.contains hsame o
  cases hf : log.find? (·.conflicts o) with
  | some p =>
    rw [hf, Option.isSome_some] at hc
    exact if_pos hc
  | none =>
    rw [hf, Option.isSome_none] at hc
    refine ⟨_, if_neg (by simp [hc]), fun op => ?_⟩
    by_cases hop : op = o.operator
    · subst hop
      rw [Slots.get_set_self, Keyed.entries_insert o hc, h]
      simp
    · rw [Slots.get_set_of_ne _ _ hop, h]
      simp [Ne.symm hop]

end FixedSlots

namespace VariadicSlots

/-- Every slot lists the overloads of its operator, in order. -/
def Holds (s : VariadicSlots) (log : List VariadicOverload) : Prop :=
  ∀ op, s.get op = log.filter (·.operator = op)

variable {s : VariadicSlots} {log : List VariadicOverload}

/-- What a registration does to slots that hold a log. -/
theorem Holds.register (h : s.Holds log) (o : VariadicOverload)
    (hvalid : o.signature.arity.isValid) :
    match log.find? (·.conflicts o) with
    | some p => s.register o =
        .error (.duplicateSignature (.variadic o.operator)
          s!"{o.signature} overlaps {p.signature}")
    | none => ∃ s', s.register o = .ok s' ∧ Holds s' (log ++ [o]) := by
  have hslot : (s.get o.operator).find? (Signature.conflicts ·.signature o.signature) =
      log.find? (·.conflicts o) := by
    rw [h, List.find?_filter]
    simp only [Overload.conflicts, Bool.decide_and, Bool.decide_eq_true]
  simp only [VariadicSlots.register, hvalid, if_true, hslot]
  cases log.find? (·.conflicts o) with
  | some p => rfl
  | none =>
    refine ⟨_, rfl, fun op => ?_⟩
    by_cases hop : op = o.operator
    · subst hop
      rw [Slots.get_set_self, h]
      simp
    · rw [Slots.get_set_of_ne _ _ hop, h]
      simp [Ne.symm hop]

theorem register_of_not_valid (s : VariadicSlots) {o : VariadicOverload}
    (h : o.signature.arity.isValid = false) :
    s.register o = .error (.invalidArity (.variadic o.operator) o.signature.arity.min
      (o.signature.arity.max.getD 0)) := by
  simp only [register, h]
  rfl

end VariadicSlots

/-- The tables have exactly the registrations of a log, each in the slot of its operator. -/
structure Tables.Holds (t : Tables) (log : List Registration) : Prop where
  unary : t.unary.Holds (log.filterMap Registration.toUnary?)
  binary : t.binary.Holds (log.filterMap Registration.toBinary?)
  variadic : t.variadic.Holds (log.filterMap Registration.toVariadic?)

namespace Tables

theorem holds_empty : Tables.empty.Holds [] := by
  constructor <;> intro op <;> simp [empty, Keyed.empty]

open Registration

section Step

variable {t : Tables} {log : List Registration}

theorem Holds.register_unary (h : t.Holds log) (o : UnaryOverload) :
    match refusal? log (.unary o) with
    | some failure => t.register (.unary o) = .error failure
    | none => ∃ t', t.register (.unary o) = .ok t' ∧ t'.Holds (log ++ [.unary o]) := by
  have hstep := h.unary.register (fun _ _ => UnarySignature.conflicts_iff) o
  have hobstacle : obstacle? log (.unary o) =
      ((log.filterMap toUnary?).find? (·.conflicts o)).map .unary := find?_unary log _
  cases hf : (log.filterMap toUnary?).find? (·.conflicts o) with
  | some p =>
    simp only [hf] at hstep
    simp only [refusal?, hobstacle, hf, Option.map_some, Tables.register, hstep]
    rfl
  | none =>
    simp only [hf] at hstep
    obtain ⟨s, hs, hholds⟩ := hstep
    simp only [refusal?, hobstacle, hf, Option.map_none, Tables.register, hs]
    refine ⟨_, rfl, ?_, ?_, ?_⟩
    · simpa [List.filterMap_cons, toUnary?] using hholds
    · simpa [List.filterMap_cons, toBinary?] using h.binary
    · simpa [List.filterMap_cons, toVariadic?] using h.variadic

theorem Holds.register_binary (h : t.Holds log) (o : BinaryOverload) :
    match refusal? log (.binary o) with
    | some failure => t.register (.binary o) = .error failure
    | none => ∃ t', t.register (.binary o) = .ok t' ∧ t'.Holds (log ++ [.binary o]) := by
  have hstep := h.binary.register (fun _ _ => BinarySignature.conflicts_iff) o
  have hobstacle : obstacle? log (.binary o) =
      ((log.filterMap toBinary?).find? (·.conflicts o)).map .binary := find?_binary log _
  cases hf : (log.filterMap toBinary?).find? (·.conflicts o) with
  | some p =>
    simp only [hf] at hstep
    simp only [refusal?, hobstacle, hf, Option.map_some, Tables.register, hstep]
    rfl
  | none =>
    simp only [hf] at hstep
    obtain ⟨s, hs, hholds⟩ := hstep
    simp only [refusal?, hobstacle, hf, Option.map_none, Tables.register, hs]
    refine ⟨_, rfl, ?_, ?_, ?_⟩
    · simpa [List.filterMap_cons, toUnary?] using h.unary
    · simpa [List.filterMap_cons, toBinary?] using hholds
    · simpa [List.filterMap_cons, toVariadic?] using h.variadic

theorem Holds.register_variadic (h : t.Holds log) {o : VariadicOverload}
    (hvalid : o.signature.arity.isValid) :
    match refusal? log (.variadic o) with
    | some failure => t.register (.variadic o) = .error failure
    | none => ∃ t', t.register (.variadic o) = .ok t' ∧ t'.Holds (log ++ [.variadic o]) := by
  have hstep := h.variadic.register o hvalid
  have hobstacle : obstacle? log (.variadic o) =
      ((log.filterMap toVariadic?).find? (·.conflicts o)).map .variadic := find?_variadic log _
  cases hf : (log.filterMap toVariadic?).find? (·.conflicts o) with
  | some p =>
    simp only [hf] at hstep
    simp only [refusal?, hvalid, if_true, hobstacle, hf, Option.map_some, Tables.register, hstep]
    rfl
  | none =>
    simp only [hf] at hstep
    obtain ⟨s, hs, hholds⟩ := hstep
    simp only [refusal?, hvalid, if_true, hobstacle, hf, Option.map_none, Tables.register, hs]
    refine ⟨_, rfl, ?_, ?_, ?_⟩
    · simpa [List.filterMap_cons, toUnary?] using h.unary
    · simpa [List.filterMap_cons, toBinary?] using h.binary
    · simpa [List.filterMap_cons, toVariadic?] using hholds

/-- What a registration does to tables that hold a log. -/
theorem Holds.register (h : t.Holds log) (r : Registration) :
    match refusal? log r with
    | some failure => t.register r = .error failure
    | none => ∃ t', t.register r = .ok t' ∧ t'.Holds (log ++ [r]) := by
  cases r with
  | unary o => exact h.register_unary o
  | binary o => exact h.register_binary o
  | variadic o =>
    by_cases hvalid : o.signature.arity.isValid
    · exact h.register_variadic hvalid
    · have hcrossed : o.signature.arity.isValid = false := by simpa using hvalid
      simp only [refusal?, hcrossed, Tables.register,
        VariadicSlots.register_of_not_valid t.variadic hcrossed]
      rfl

end Step

end Tables

end ColumnDispatch
