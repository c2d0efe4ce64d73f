import ColumnDispatch.Proofs.Invocation.Transparency
import ColumnDispatch.Proofs.Registration.Counts
import ColumnDispatch.Proofs.Texts

/-! The events of the registration phase as a record of it. Every accepted registration is reported
once, at its place, and nothing else is reported as one. What an event shows determines the
registration but for its kernel, so the whole log of accepted registrations can be read back from
the events. The registration of the built-in overloads adds one event, with their number, when all
were accepted; the end of the phase adds one with the number of each class. -/

namespace ColumnDispatch

/-! ### Events as they are shown -/

theorem OperandClass.label_injective {c c' : OperandClass} (h : c.label = c'.label) : c = c' := by
  cases c <;> cases c' <;> first | rfl | exact absurd h (by decide)

namespace Event

/-- The level, the message and the named texts of an event: all that is seen of it. -/
def shown (e : Event) : Level × String × List (String × String) := (e.level, e.message, e.fields)

/-- Whether the message is that of an accepted registration. -/
def isRegistration (e : Event) : Bool :=
  [OperandClass.unary, .binary, .variadic].any fun c => e.message = s!"registered {c.label} overload"

@[simp] theorem isRegistration_registered (op : Operator) (signature : String)
    (returns : LogicalType) : (registered op signature returns).isRegistration := by
  have hclass : op.operandClass ∈ [OperandClass.unary, .binary, .variadic] := by
    cases op.operandClass <;> decide
  exact List.any_eq_true.2 ⟨op.operandClass, hclass, decide_eq_true rfl⟩

@[simp] theorem isRegistration_builtinsRegistered (count : Nat) :
    (builtinsRegistered count).isRegistration = false := by
  have hmessage : (builtinsRegistered count).message = "registered built-in kernels" := rfl
  rw [isRegistration, hmessage]
  decide

end Event

namespace Registration

variable {r s : Registration}

theorem shown_event (r : Registration) :
    r.event.shown = (.debug, s!"registered {r.operator.operandClass.label} overload",
      [("operator", r.operator.name), ("signature", r.signatureText),
        ("return_type", r.returns.name)]) := rfl

theorem operandClass_eq_of_shown (h : r.event.shown = s.event.shown) :
    r.operator.operandClass = s.operator.operandClass := by
  have hmessage : "registered " ++ r.operator.operandClass.label ++ " overload" =
      "registered " ++ s.operator.operandClass.label ++ " overload" :=
    (Prod.mk.inj (Prod.mk.inj h).2).1
  rw [String.append_left_inj, String.append_right_inj] at hmessage
  exact OperandClass.label_injective hmessage

/-- What is seen of an accepted registration determines it, but for its kernel. -/
theorem bare_eq_of_shown (h : r.event.shown = s.event.shown) : r.bare = s.bare := by
  have hclass := operandClass_eq_of_shown h
  rw [shown_event, shown_event] at h
  simp only [Prod.mk.injEq, List.cons.injEq, true_and, and_true] at h
  obtain ⟨-, hoperator, hsignature, hreturns⟩ := h
  have hreturns := LogicalType.name_injective hreturns
  cases r with
  | unary o =>
    cases s with
    | unary p =>
      have hoperator := UnaryOperator.name_injective hoperator
      have hsignature := UnarySignature.toString_injective hsignature
      exact congrArg unary (Overload.withKernel_eq hoperator hsignature hreturns)
    | binary p => cases hclass
    | variadic p => cases hclass
  | binary o =>
    cases s with
    | unary p => cases hclass
    | binary p =>
      have hoperator := BinaryOperator.name_injective hoperator
      have hsignature := BinarySignature.toString_injective hsignature
      exact congrArg binary (Overload.withKernel_eq hoperator hsignature hreturns)
    | variadic p => cases hclass
  | variadic o =>
    cases s with
    | unary p => cases hclass
    | binary p => cases hclass
    | variadic p =>
      have hoperator := VariadicOperator.name_injective hoperator
      have hsignature := VariadicSignature.toString_injective hsignature
      exact congrArg variadic (Overload.withKernel_eq hoperator hsignature hreturns)

/-- So a list of them is determined, but for the kernels, by what is seen of their events. -/
theorem map_bare_eq_of_shown {log log' : List Registration}
    (h : log.map (·.event.shown) = log'.map (·.event.shown)) : log.map bare = log'.map bare := by
  induction log generalizing log' with
  | nil => rw [List.map_eq_nil_iff.1 h.symm]
  | cons r rest ih =>
    match log' with
    | [] => simp at h
    | s :: rest' =>
      obtain ⟨hfirst, hrest⟩ := List.cons.inj h
      rw [List.map_cons, List.map_cons, bare_eq_of_shown hfirst, ih hrest]

end Registration

/-! ### Requests -/

/-- What can be asked of a builder. -/
inductive Request where
  | register (r : Registration)
  | registerBuiltins

open Registration

namespace Builder

def perform (b : Builder) : Request → Progress
  | .register r => b.register r
  | .registerBuiltins => b.registerBuiltins

/-- The registrations that a request adds. -/
def added (b : Builder) : Request → List Registration
  | .register r => b.accepted [r]
  | .registerBuiltins => b.kept Builtin.all

/-- Performs one request after the other, whatever becomes of each. -/
def performAll (b : Builder) (requests : List Request) : Builder :=
  requests.foldl (fun b request => (b.perform request).builder) b

/-- The registrations that requests add, in order. -/
def addedByAll (b : Builder) : List Request → List Registration
  | [] => []
  | request :: rest => b.added request ++ (b.perform request).builder.addedByAll rest

/-- What is reported while requests are performed, in order. -/
def reported (b : Builder) : List Request → List Event
  | [] => []
  | request :: rest => (b.perform request).events ++ (b.perform request).builder.reported rest

@[simp] theorem performAll_nil (b : Builder) : b.performAll [] = b := rfl

@[simp] theorem performAll_cons (b : Builder) (request : Request) (rest : List Request) :
    b.performAll (request :: rest) = (b.perform request).builder.performAll rest := rfl

section Steps

variable {b : Builder} {log : List Registration}

theorem Records.size (h : Records b log) : b.size = log.length := h.holds.size

theorem Records.size_registerAll (h : Records b log) (rs : List Registration) :
    (b.registerAll rs).builder.size = b.size + (b.kept rs).length := by
  rw [(h.registerAll rs).size, h.size, List.length_append]

theorem Records.events_register (h : Records b log) (r : Registration) :
    (b.register r).events = (b.accepted [r]).map event := by
  cases hr : refusal? log r with
  | some failure => rw [h.register_of_refused hr, h.accepted_cons_of_refused hr]; rfl
  | none => rw [(h.register_of_accepted hr).2.1, h.accepted_cons_of_accepted hr]; rfl

theorem Records.events_registerAll (h : Records b log) (rs : List Registration) :
    (b.registerAll rs).events = (b.kept rs).map event := by
  induction rs generalizing b log with
  | nil => rfl
  | cons r rest ih =>
    cases hr : refusal? log r with
    | some failure =>
      have hstep := h.register_of_refused hr
      simp [Builder.registerAll, kept, hstep]
    | none =>
      obtain ⟨hnone, hevents, hrec⟩ := h.register_of_accepted hr
      simp [Builder.registerAll, kept, hnone, hevents, ih hrec]

/-- The built-in overloads that are added are reported one by one, and then, if none was refused,
their number. -/
theorem Records.events_registerBuiltins (h : Records b log) :
    b.registerBuiltins.events = (b.kept Builtin.all).map event ++
      if b.registerBuiltins.failure? = none then
        [.builtinsRegistered (b.kept Builtin.all).length] else [] := by
  have hsize := h.size_registerAll Builtin.all
  rw [registerBuiltins_failure?, ← h.events_registerAll]
  simp only [registerBuiltins]
  cases hfailure : (b.registerAll Builtin.all).failure? with
  | some failure => simp
  | none => simp [hsize]

theorem Records.perform (h : Records b log) (request : Request) :
    Records (b.perform request).builder (log ++ b.added request) := by
  cases request with
  | register r => exact h.run [r]
  | registerBuiltins =>
    rw [Builder.perform, registerBuiltins_builder]
    exact h.registerAll Builtin.all

theorem filter_isRegistration_map_event (rs : List Registration) :
    (rs.map event).filter Event.isRegistration = rs.map event := by
  refine List.filter_eq_self.2 fun e he => ?_
  obtain ⟨r, -, rfl⟩ := List.mem_map.1 he
  exact Event.isRegistration_registered ..

/-- The registrations that a request reports are those that it adds. -/
theorem Records.registrations_perform (h : Records b log) (request : Request) :
    (b.perform request).events.filter Event.isRegistration = (b.added request).map event := by
  cases request with
  | register r =>
    simp only [Builder.perform, added, h.events_register, filter_isRegistration_map_event]
  | registerBuiltins =>
    simp only [Builder.perform, added, h.events_registerBuiltins, List.filter_append,
      filter_isRegistration_map_event]
    split <;> simp

theorem Records.level_perform (h : Records b log) (request : Request) :
    ∀ e ∈ (b.perform request).events, e.level = .debug := by
  have hevents (rs : List Registration) : ∀ e ∈ rs.map event, e.level = .debug := by
    simp only [List.forall_mem_map]
    exact fun _ _ => rfl
  cases request with
  | register r =>
    rw [Builder.perform, h.events_register]
    exact hevents _
  | registerBuiltins =>
    rw [Builder.perform, h.events_registerBuiltins]
    intro e he
    rcases List.mem_append.1 he with he | he
    · exact hevents _ e he
    · split at he
      · rw [List.mem_singleton.1 he]
        rfl
      · cases he

end Steps

/-! ### Runs -/

section Runs

variable {b : Builder} {log : List Registration}

theorem Records.performAll (h : Records b log) (requests : List Request) :
    Records (b.performAll requests) (log ++ b.addedByAll requests) := by
  induction requests generalizing b log with
  | nil => simpa [addedByAll] using h
  | cons request rest ih => simpa [addedByAll] using ih (h.perform request)

theorem Records.registrations_reported (h : Records b log) (requests : List Request) :
    (b.reported requests).filter Event.isRegistration = (b.addedByAll requests).map event := by
  induction requests generalizing b log with
  | nil => rfl
  | cons request rest ih =>
    rw [reported, addedByAll, List.filter_append, List.map_append, h.registrations_perform,
      ih (h.perform request)]

theorem Records.level_reported (h : Records b log) (requests : List Request) :
    ∀ e ∈ b.reported requests, e.level = .debug := by
  induction requests generalizing b log with
  | nil => simp [reported]
  | cons request rest ih =>
    intro e he
    rcases List.mem_append.1 he with he | he
    · exact h.level_perform request e he
    · exact ih (h.perform request) e he

/-- The end of the phase is reported with the number of accepted registrations of each class. -/
theorem Records.freeze_event (h : Records b log) :
    b.freeze.2 = .frozen (log.filterMap toUnary?).length (log.filterMap toBinary?).length
      (log.filterMap toVariadic?).length := by
  rw [freeze, h.holds.unary.total, h.holds.binary.total, h.holds.variadic.total]

end Runs

/-- The events of a run of requests to a new builder, and of the end of the phase after it. -/
theorem events_record_registrations (settings : Settings) (requests : List Request) :
    let start : Builder := ⟨settings, .empty⟩
    let b := start.performAll requests
    let accepted := start.addedByAll requests
    let events := start.reported requests
    -- the reported registrations are the accepted ones, which are those that the tables hold
    b.tables.Holds accepted ∧
    (events.filter Event.isRegistration).map Event.shown = accepted.map (fun r =>
      (.debug, s!"registered {r.operator.operandClass.label} overload",
        [("operator", r.operator.name), ("signature", r.signatureText),
          ("return_type", r.returns.name)])) ∧
    -- a run with the same report accepted the same but for the kernels
    (∀ settings' requests',
      let start' : Builder := ⟨settings', .empty⟩
      ((start'.reported requests').filter Event.isRegistration).map Event.shown =
        (events.filter Event.isRegistration).map Event.shown →
      (start'.addedByAll requests').map bare = accepted.map bare) ∧
    -- what the next registration reports
    (∀ r, (b.register r).failure? ≠ none → (b.register r).events = []) ∧
    (∀ r, (b.register r).failure? = none → (b.register r).events = [r.event]) ∧
    -- what the registration of the built-in overloads reports
    (let progress := b.registerBuiltins
      let added := b.kept Builtin.all
      progress.builder.tables.Holds (accepted ++ added) ∧
      b.size ≤ progress.builder.size ∧ progress.builder.size - b.size = added.length ∧
      (progress.failure? = none →
        progress.events = added.map event ++ [.builtinsRegistered added.length]) ∧
      (progress.failure? ≠ none → progress.events = added.map event)) ∧
    -- the end of the phase
    (events ++ [b.freeze.2]).filter (·.level = .info) = [b.freeze.2] ∧
    ∃ unary binary variadic, b.freeze.2 = .frozen unary binary variadic ∧
      unary = (accepted.filterMap toUnary?).length ∧
      binary = (accepted.filterMap toBinary?).length ∧
      variadic = (accepted.filterMap toVariadic?).length ∧
      unary + binary + variadic = b.freeze.1.size := by
  intro start b accepted events
  have hstart : Records start [] := records_empty settings
  have hrec : Records b accepted := hstart.performAll requests
  have htrail := hstart.registrations_reported requests
  refine ⟨hrec.holds, ?_, fun settings' requests' hsame => ?_, fun r hr => ?_, fun r hr => ?_, ?_,
    ?_, _, _, _, hrec.freeze_event, rfl, rfl, rfl, ?_⟩
  · rw [htrail, List.map_map]
    rfl
  · rw [htrail, (records_empty settings').registrations_reported, List.map_map, List.map_map]
      at hsame
    exact map_bare_eq_of_shown hsame
  · obtain ⟨failure, hfailure⟩ := Option.ne_none_iff_exists'.1 hr
    rw [hrec.failure?_register] at hfailure
    rw [hrec.register_of_refused hfailure]
  · rw [hrec.failure?_register] at hr
    exact (hrec.register_of_accepted hr).2.1
  · intro progress added
    have hevents := hrec.events_registerBuiltins
    have hmany : Records progress.builder (accepted ++ added) := hrec.perform .registerBuiltins
    have hsize : progress.builder.size = b.size + added.length := by
      rw [registerBuiltins_builder, hrec.size_registerAll]
    refine ⟨hmany.holds, by omega, by omega, fun hnone => ?_, fun hfailure => ?_⟩
    · rw [hevents, if_pos hnone]
    · rw [hevents, if_neg hfailure, List.append_nil]
  · have hdebug : events.filter (·.level = .info) = [] := by
      refine List.filter_eq_nil_iff.2 fun e he => ?_
      simp [hstart.level_reported requests e he]
    rw [List.filter_append, hdebug]
    rfl
  · rw [length_classes, ← hrec.size]
    rfl

end Builder

end ColumnDispatch
