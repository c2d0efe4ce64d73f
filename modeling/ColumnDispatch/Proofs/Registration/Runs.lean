import ColumnDispatch.Builtin
import ColumnDispatch.Proofs.Registration.Log

/-! Runs of the registration phase. A builder is reached with a log if some requests to a new
builder lead to it, and the log lists the registrations that were accepted on the way. The
invariant of a run is `Builder.Records`: the tables hold exactly the log, and the log is consistent.
Each step is decided by the log of the steps before it, so a run is too. -/

namespace ColumnDispatch.Builder

open Registration

/-! ### Steps -/

/-- The tables hold the log, and the log is one that could be accepted. -/
structure Records (b : Builder) (log : List Registration) : Prop where
  holds : b.tables.Holds log
  consistent : Consistent log

theorem records_empty (settings : Settings) : Records ⟨settings, .empty⟩ [] :=
  ⟨Tables.holds_empty, .nil⟩

section Step

variable {b : Builder} {log : List Registration} {r : Registration}

/-- A refused registration leaves the builder as it is and reports nothing. -/
theorem Records.register_of_refused (h : Records b log) {failure : Failure}
    (hr : refusal? log r = some failure) : b.register r = ⟨b, [], some failure⟩ := by
  have hstep := h.holds.register r
  simp only [hr] at hstep
  simp only [Builder.register, hstep]

/-- An accepted registration joins the log, and is all that changes and is reported. -/
theorem Records.register_of_accepted (h : Records b log) (hr : refusal? log r = none) :
    (b.register r).failure? = none ∧ (b.register r).events = [r.event] ∧
      Records (b.register r).builder (log ++ [r]) := by
  have hstep := h.holds.register r
  simp only [hr] at hstep
  obtain ⟨t, ht, hholds⟩ := hstep
  simp only [Builder.register, ht, true_and]
  exact ⟨hholds, h.consistent.snoc hr⟩

theorem Records.failure?_register (h : Records b log) (r : Registration) :
    (b.register r).failure? = refusal? log r := by
  cases hr : refusal? log r with
  | some failure => rw [h.register_of_refused hr]
  | none => exact (h.register_of_accepted hr).1

end Step

/-! ### Runs -/

/-- Registers one after the other, whatever becomes of each. -/
def run (b : Builder) (calls : List Registration) : Builder :=
  calls.foldl (fun b r => (b.register r).builder) b

@[simp] theorem run_nil (b : Builder) : b.run [] = b := rfl

@[simp] theorem run_cons (b : Builder) (r : Registration) (calls : List Registration) :
    b.run (r :: calls) = (b.register r).builder.run calls := rfl

/-- The registrations that a run accepts, in order. -/
def accepted (b : Builder) : List Registration → List Registration
  | [] => []
  | r :: rest =>
    let step := b.register r
    if step.failure?.isSome then step.builder.accepted rest else r :: step.builder.accepted rest

/-- The registrations that `registerAll` accepts before it stops. -/
def kept (b : Builder) : List Registration → List Registration
  | [] => []
  | r :: rest =>
    let step := b.register r
    if step.failure?.isSome then [] else r :: step.builder.kept rest

/-- Requests to a new builder lead to the builder, and the log lists what was accepted. A builder
for some settings is new before the built-in overloads are registered in it. -/
inductive Reached : Builder → List Registration → Prop where
  | start (settings : Settings) : Reached ⟨settings, .empty⟩ []
  | register {b : Builder} {log : List Registration} (h : Reached b log) (r : Registration) :
      Reached (b.register r).builder (log ++ b.accepted [r])
  | registerBuiltins {b : Builder} {log : List Registration} (h : Reached b log) :
      Reached b.registerBuiltins.builder (log ++ b.kept Builtin.all)

section Runs

variable {b : Builder} {log : List Registration} {r : Registration}

theorem settings_register (b : Builder) (r : Registration) :
    (b.register r).builder.settings = b.settings := by
  simp only [Builder.register]
  split <;> rfl

theorem settings_run (b : Builder) (calls : List Registration) :
    (b.run calls).settings = b.settings := by
  induction calls generalizing b with
  | nil => rfl
  | cons r rest ih => rw [run_cons, ih, settings_register]

theorem settings_registerAll (b : Builder) (rs : List Registration) :
    (b.registerAll rs).builder.settings = b.settings := by
  induction rs generalizing b with
  | nil => rfl
  | cons r rest ih =>
    simp only [Builder.registerAll]
    split
    · exact settings_register b r
    · exact (ih _).trans (settings_register b r)

theorem accepted_sublist (b : Builder) (calls : List Registration) :
    (b.accepted calls).Sublist calls := by
  induction calls generalizing b with
  | nil => exact .slnil
  | cons r rest ih =>
    simp only [accepted]
    split
    · exact (ih _).cons r
    · exact (ih _).cons_cons r

theorem Records.accepted_cons_of_refused (h : Records b log) {failure : Failure}
    (hr : refusal? log r = some failure) (rest : List Registration) :
    b.accepted (r :: rest) = b.accepted rest := by
  simp [accepted, h.register_of_refused hr]

theorem Records.accepted_cons_of_accepted (h : Records b log) (hr : refusal? log r = none)
    (rest : List Registration) :
    b.accepted (r :: rest) = r :: (b.register r).builder.accepted rest := by
  simp [accepted, (h.register_of_accepted hr).1]

theorem Records.run (h : Records b log) (calls : List Registration) :
    Records (b.run calls) (log ++ b.accepted calls) := by
  induction calls generalizing b log with
  | nil => simpa [accepted] using h
  | cons r rest ih =>
    cases hr : refusal? log r with
    | some failure =>
      rw [h.accepted_cons_of_refused hr, run_cons, h.register_of_refused hr]
      exact ih h
    | none =>
      obtain ⟨-, -, hrec⟩ := h.register_of_accepted hr
      simpa [h.accepted_cons_of_accepted hr] using ih hrec

/-- A run accepts all calls exactly if they do not conflict with the log or with each other. -/
theorem Records.accepted_eq_self_iff (h : Records b log) {calls : List Registration} :
    b.accepted calls = calls ↔ Consistent (log ++ calls) := by
  constructor
  · intro hall
    have hrun := h.run calls
    rw [hall] at hrun
    exact hrun.consistent
  · intro hc
    induction calls generalizing b log with
    | nil => rfl
    | cons r rest ih =>
      have hr := hc.refusal?_eq_none
      obtain ⟨-, -, hrec⟩ := h.register_of_accepted hr
      rw [h.accepted_cons_of_accepted hr, ih hrec (by simpa using hc)]

/-- A call that has been made once, whatever became of it, is not accepted again. -/
theorem Records.exists_conflict (h : Records b log) {calls : List Registration}
    {p : Registration} (hp : p ∈ calls) (hvalid : p.hasValidArity) :
    ∃ q ∈ log ++ b.accepted calls, q.conflicts p := by
  induction calls generalizing b log with
  | nil => simp at hp
  | cons r rest ih =>
    cases hr : refusal? log r with
    | some failure =>
      rw [h.accepted_cons_of_refused hr]
      rcases List.mem_cons.1 hp with rfl | hp
      · rw [refusal?_of_valid hvalid, Option.map_eq_some_iff] at hr
        obtain ⟨q, hq, -⟩ := hr
        obtain ⟨hmem, hconflict⟩ := conflicts_of_obstacle? hq
        exact ⟨q, List.mem_append_left _ hmem, hconflict⟩
      · exact ih h hp
    | none =>
      obtain ⟨-, -, hrec⟩ := h.register_of_accepted hr
      rw [h.accepted_cons_of_accepted hr]
      rcases List.mem_cons.1 hp with rfl | hp
      · exact ⟨p, by simp, conflicts_self hvalid⟩
      · simpa using ih hrec hp

/-- What a run accepts on an operator is what a run of the calls on that operator accepts. -/
theorem Records.accepted_filter {b' : Builder} {op : Operator} (h : Records b log)
    (h' : Records b' (log.filter (·.operator = op))) (calls : List Registration) :
    b'.accepted (calls.filter (·.operator = op)) = (b.accepted calls).filter (·.operator = op) := by
  induction calls generalizing b b' log with
  | nil => rfl
  | cons r rest ih =>
    by_cases hop : r.operator = op
    · have hsame := refusal?_filter_operator log hop
      rw [List.filter_cons_of_pos (by simpa using hop)]
      cases hr : refusal? log r with
      | some failure =>
        rw [h.accepted_cons_of_refused hr, h'.accepted_cons_of_refused (hsame.trans hr)]
        exact ih h h'
      | none =>
        have hr' := hsame.trans hr
        obtain ⟨-, -, hrec⟩ := h.register_of_accepted hr
        obtain ⟨-, -, hrec'⟩ := h'.register_of_accepted hr'
        rw [h.accepted_cons_of_accepted hr, h'.accepted_cons_of_accepted hr',
          List.filter_cons_of_pos (by simpa using hop), ih hrec]
        simpa [List.filter_append, hop] using hrec'
    · rw [List.filter_cons_of_neg (by simpa using hop)]
      cases hr : refusal? log r with
      | some failure =>
        rw [h.accepted_cons_of_refused hr]
        exact ih h h'
      | none =>
        obtain ⟨-, -, hrec⟩ := h.register_of_accepted hr
        rw [h.accepted_cons_of_accepted hr, List.filter_cons_of_neg (by simpa using hop), ih hrec]
        simpa [List.filter_append, hop] using h'

theorem Records.registerAll (h : Records b log) (rs : List Registration) :
    Records (b.registerAll rs).builder (log ++ b.kept rs) := by
  induction rs generalizing b log with
  | nil => simpa [Builder.registerAll, kept] using h
  | cons r rest ih =>
    cases hr : refusal? log r with
    | some failure =>
      have hstep := h.register_of_refused hr
      simpa [Builder.registerAll, kept, hstep] using h
    | none =>
      obtain ⟨hnone, -, hrec⟩ := h.register_of_accepted hr
      simpa [Builder.registerAll, kept, hnone] using ih hrec

theorem registerBuiltins_builder (b : Builder) :
    b.registerBuiltins.builder = (b.registerAll Builtin.all).builder := by
  simp only [registerBuiltins]
  split <;> rfl

theorem registerBuiltins_failure? (b : Builder) :
    b.registerBuiltins.failure? = (b.registerAll Builtin.all).failure? := by
  simp only [registerBuiltins]
  split <;> rfl

theorem Reached.records (h : Reached b log) : Records b log := by
  induction h with
  | start settings => exact records_empty settings
  | register _ r ih => exact ih.run [r]
  | registerBuiltins _ ih =>
    rw [registerBuiltins_builder]
    exact ih.registerAll Builtin.all

end Runs

end ColumnDispatch.Builder
