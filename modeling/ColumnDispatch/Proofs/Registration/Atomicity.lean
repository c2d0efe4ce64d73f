import ColumnDispatch.Proofs.Registration.Runs

/-! Failures of registration. A refused registration changes nothing and says what was in its way.
Registering many stops at the first that is refused and keeps those before it; when the many do not
conflict with each other, as the built-in overloads do not, that is the first one with a conflict in
the log. -/

namespace ColumnDispatch

open Registration

/-! ### Logs of two parts -/

namespace Consistent

theorem append {log rs : List Registration} (h : Consistent log) (hrs : Consistent rs)
    (hapart : ∀ p ∈ log, ∀ r ∈ rs, p.conflicts r = false) : Consistent (log ++ rs) := by
  refine ⟨fun r hr => ?_, List.pairwise_append.2 ⟨h.apart, hrs.apart, hapart⟩⟩
  rcases List.mem_append.1 hr with hr | hr
  · exact h.valid r hr
  · exact hrs.valid r hr

/-- The built-in overloads can all be registered, in any builder that none of them conflicts with. -/
theorem builtins : Consistent Builtin.all where
  valid := by decide +kernel
  apart := by decide +kernel

end Consistent

theorem Registration.obstacle?_append_of_some {log rs : List Registration} {r p : Registration}
    (h : obstacle? log r = some p) : obstacle? (log ++ rs) r = some p := by
  rw [obstacle?] at h
  rw [obstacle?, List.find?_append, h]
  rfl

/-- Of some registrations either none conflicts with a log or there is a first one that does. -/
theorem Registration.exists_first_conflict (log rs : List Registration) :
    (∀ p ∈ log, ∀ r ∈ rs, p.conflicts r = false) ∨
      ∃ before first after p, rs = before ++ first :: after ∧
        (∀ r ∈ before, ∀ q ∈ log, q.conflicts r = false) ∧ obstacle? log first = some p := by
  cases hf : rs.find? fun r => (obstacle? log r).isSome with
  | none =>
    left
    intro p hp r hr
    have hfree := List.find?_eq_none.1 hf r hr
    rw [Option.not_isSome_iff_eq_none, obstacle?_eq_none_iff] at hfree
    exact hfree p hp
  | some first =>
    right
    obtain ⟨hfirst, before, after, rfl, hbefore⟩ := List.find?_eq_some_iff_append.1 hf
    obtain ⟨p, hp⟩ := Option.isSome_iff_exists.1 hfirst
    refine ⟨before, first, after, p, rfl, fun r hr => ?_, hp⟩
    have hfree := hbefore r hr
    rw [Bool.not_eq_true', Option.isSome_eq_false_iff, Option.isNone_iff_eq_none,
      obstacle?_eq_none_iff] at hfree
    exact hfree

namespace Builder

/-! ### Registering many -/

section Many

variable {b : Builder} {log rs : List Registration}

theorem Records.registerAll_of_consistent (h : Records b log) (hc : Consistent (log ++ rs)) :
    (b.registerAll rs).failure? = none ∧ b.kept rs = rs := by
  induction rs generalizing b log with
  | nil => exact ⟨rfl, rfl⟩
  | cons r rest ih =>
    obtain ⟨hnone, -, hrec⟩ := h.register_of_accepted hc.refusal?_eq_none
    obtain ⟨hfailure, hkept⟩ := ih hrec (by simpa using hc)
    simp [Builder.registerAll, kept, hnone, hfailure, hkept]

theorem Records.registerAll_of_refused (h : Records b log) {before after : List Registration}
    {first : Registration} {failure : Failure} (hc : Consistent (log ++ before))
    (hfirst : refusal? (log ++ before) first = some failure) :
    (b.registerAll (before ++ first :: after)).failure? = some failure ∧
      b.kept (before ++ first :: after) = before := by
  induction before generalizing b log with
  | nil =>
    have hstep := h.register_of_refused (by simpa using hfirst)
    simp [Builder.registerAll, kept, hstep]
  | cons r rest ih =>
    obtain ⟨hnone, -, hrec⟩ := h.register_of_accepted hc.refusal?_eq_none
    obtain ⟨hfailure, hkept⟩ := ih hrec (by simpa using hc) (by simpa using hfirst)
    simp [Builder.registerAll, kept, hnone, hfailure, hkept]

/-- What comes of registering many that do not conflict with each other. -/
theorem Records.registerAll_cases (h : Records b log) (hrs : Consistent rs) :
    ((∀ p ∈ log, ∀ r ∈ rs, p.conflicts r = false) ∧ (b.registerAll rs).failure? = none ∧
        b.kept rs = rs) ∨
      ∃ before first after p, rs = before ++ first :: after ∧
        (∀ r ∈ before, ∀ q ∈ log, q.conflicts r = false) ∧ obstacle? log first = some p ∧
        (b.registerAll rs).failure? = some (first.duplicateOf p) ∧ b.kept rs = before := by
  rcases exists_first_conflict log rs with hapart | ⟨before, first, after, p, rfl, hbefore, hp⟩
  · exact .inl ⟨hapart, h.registerAll_of_consistent (h.consistent.append hrs hapart)⟩
  · have hkept := h.consistent.append (hrs.sublist (List.sublist_append_left before _))
      fun q hq r hr => hbefore r hr q hq
    have hrefusal : refusal? (log ++ before) first = some (first.duplicateOf p) := by
      rw [refusal?_of_valid (hrs.valid first (by simp)), obstacle?_append_of_some hp]
      rfl
    exact .inr ⟨before, first, after, p, rfl, hbefore, hp,
      h.registerAll_of_refused hkept hrefusal⟩

end Many

/-! ### Reached builders -/

variable {b : Builder} {log : List Registration}

theorem Records.register_of_crossed (h : Records b log) {o : VariadicOverload} {max : Nat}
    (hmax : o.signature.arity.max = some max) (hcrossed : max < o.signature.arity.min) :
    (b.register (.variadic o)).failure? =
      some (.invalidArity (.variadic o.operator) o.signature.arity.min max) := by
  have hinvalid : ¬o.signature.arity.isValid := by
    simp [Arity.isValid_iff, hmax, hcrossed]
  rw [h.failure?_register, refusal?, if_neg hinvalid, hmax]
  rfl

/-- A registration fails for crossed bounds, or else for the earliest one that it conflicts with. -/
theorem Records.failure_cases (h : Records b log) {r : Registration} {failure : Failure}
    (hr : (b.register r).failure? = some failure) :
    (∃ o max, r = .variadic o ∧ o.signature.arity.max = some max ∧ max < o.signature.arity.min ∧
        failure = .invalidArity (.variadic o.operator) o.signature.arity.min max) ∨
      r.hasValidArity ∧ ∃ earlier p later, log = earlier ++ p :: later ∧
        (∀ q ∈ earlier, q.conflicts r = false) ∧ p.conflicts r ∧ failure = r.duplicateOf p := by
  rw [h.failure?_register] at hr
  by_cases hvalid : r.hasValidArity
  · right
    rw [refusal?_of_valid hvalid, Option.map_eq_some_iff] at hr
    obtain ⟨p, hp, rfl⟩ := hr
    obtain ⟨hconflict, earlier, later, hlog, hearlier⟩ := List.find?_eq_some_iff_append.1 hp
    exact ⟨hvalid, earlier, p, later, hlog, by simpa using hearlier, hconflict, rfl⟩
  · left
    cases r with
    | unary o => exact absurd rfl hvalid
    | binary o => exact absurd rfl hvalid
    | variadic o =>
      have harity : ¬o.signature.arity.isValid := hvalid
      rw [refusal?, if_neg harity] at hr
      obtain ⟨max, hmax, hcrossed⟩ : ∃ max, o.signature.arity.max = some max ∧
          max < o.signature.arity.min := by
        simpa [Arity.isValid_iff] using harity
      rw [hmax] at hr
      exact ⟨o, max, rfl, hmax, hcrossed, (Option.some.inj hr).symm⟩

/-- Failures of registration in a reached builder, and what registering the built-in overloads does
to it. -/
theorem Reached.registration_atomic (h : Reached b log) :
    b.tables.Holds log ∧
    (∀ r failure, (b.register r).failure? = some failure → (b.register r).builder = b ∧
      ((∃ o max, r = .variadic o ∧ o.signature.arity.max = some max ∧
          max < o.signature.arity.min ∧
          failure = .invalidArity (.variadic o.operator) o.signature.arity.min max) ∨
        r.hasValidArity ∧ ∃ earlier p later, log = earlier ++ p :: later ∧
          (∀ q ∈ earlier, q.conflicts r = false) ∧ p.conflicts r ∧ failure = r.duplicateOf p)) ∧
    (∀ o max, o.signature.arity.max = some max → max < o.signature.arity.min →
      (b.register (.variadic o)).failure? =
        some (.invalidArity (.variadic o.operator) o.signature.arity.min max)) ∧
    b.registerBuiltins.builder.settings = b.settings ∧
    (b.registerBuiltins.failure? = none ↔
      ∀ p ∈ log, ∀ r ∈ Builtin.all, p.conflicts r = false) ∧
    (b.registerBuiltins.failure? = none →
      b.registerBuiltins.builder.tables.Holds (log ++ Builtin.all)) ∧
    ∀ failure, b.registerBuiltins.failure? = some failure →
      ∃ before first after p, Builtin.all = before ++ first :: after ∧
        (∀ r ∈ before, ∀ q ∈ log, q.conflicts r = false) ∧
        log.find? (·.conflicts first) = some p ∧ failure = first.duplicateOf p ∧
        b.registerBuiltins.builder.tables.Holds (log ++ before) := by
  have hrec := h.records
  have hmany := (hrec.registerAll Builtin.all).holds
  rw [registerBuiltins_builder, registerBuiltins_failure?]
  refine ⟨hrec.holds, fun r failure hr => ⟨?_, hrec.failure_cases hr⟩,
    fun o max => hrec.register_of_crossed, settings_registerAll b _, ?_⟩
  · rw [hrec.register_of_refused (hrec.failure?_register r ▸ hr)]
  · rcases hrec.registerAll_cases .builtins with
      ⟨hapart, hnone, hkept⟩ | ⟨before, first, after, p, hall, hbefore, hp, hfailure, hkept⟩
    · rw [hkept] at hmany
      exact ⟨iff_of_true hnone hapart, fun _ => hmany, fun failure hf => by simp [hnone] at hf⟩
    · rw [hkept] at hmany
      obtain ⟨hmem, hconflict⟩ := conflicts_of_obstacle? hp
      refine ⟨iff_of_false (by simp [hfailure]) fun hapart => ?_, fun hnone => ?_,
        fun failure hf => ?_⟩
      · have hfree := hapart p hmem first (by simp [hall])
        simp [hconflict] at hfree
      · simp [hfailure] at hnone
      · obtain rfl := Option.some.inj (hfailure.symm.trans hf)
        exact ⟨before, first, after, p, hall, hbefore, hp, rfl, hmany⟩

/-- A range that one of the last built-in overloads shares a count with. -/
theorem registration_atomic_of_taken :
    let taken : Registration :=
      .variadic ⟨.concat, ⟨.string, .between 0 2⟩, .string, Kernel.concat⟩
    let b := (empty.register taken).builder
    b.tables.Holds [taken] ∧ b.registerBuiltins.failure? ≠ none := by
  intro taken b
  have hb : Reached b [taken] := .register (.start {}) taken
  obtain ⟨hholds, -, -, -, hbuiltins, -⟩ := hb.registration_atomic
  refine ⟨hholds, fun hnone => ?_⟩
  have hapart := hbuiltins.1 hnone taken (by simp)
  revert hapart
  decide +kernel

end Builder

end ColumnDispatch
