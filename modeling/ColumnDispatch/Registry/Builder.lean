import ColumnDispatch.Event
import ColumnDispatch.Registry.Tables
import ColumnDispatch.Settings

/-! The registration phase. A builder takes registrations one at a time; one that fails leaves the
builder as it is. A run of registrations stops at the first failure and keeps what came before. -/

namespace ColumnDispatch

namespace Registration

/-- What is reported when the registration is accepted. -/
def event (r : Registration) : Event := .registered r.operator r.signatureText r.returns

end Registration

/-- A registry that can still be added to. -/
structure Builder where
  settings : Settings
  tables : Tables

/-- What a step of the registration phase leaves: the builder, the events in order, and the failure
that ended the step, if one did. -/
structure Progress where
  builder : Builder
  events : List Event
  failure? : Option Failure

namespace Builder

/-- A builder with no overloads and the default settings. -/
def empty : Builder := ⟨{}, .empty⟩

def size (b : Builder) : Nat := b.tables.size

def isEmpty (b : Builder) : Bool := b.size = 0

def register (b : Builder) (r : Registration) : Progress :=
  match b.tables.register r with
  | .ok tables => ⟨{ b with tables }, [r.event], none⟩
  | .error failure => ⟨b, [], some failure⟩

def registerAll (b : Builder) : List Registration → Progress
  | [] => ⟨b, [], none⟩
  | r :: rest =>
    let step := b.register r
    if step.failure?.isSome then step
    else
      let later := step.builder.registerAll rest
      { later with events := step.events ++ later.events }

end Builder

/-- A registry that can only be asked. -/
structure Registry where
  tables : Tables
  verifyReturnType : Bool

namespace Registry

def size (r : Registry) : Nat := r.tables.size

def isEmpty (r : Registry) : Bool := r.size = 0

end Registry

namespace Builder

/-- Ends the registration phase. -/
def freeze (b : Builder) : Registry × Event :=
  (⟨b.tables, b.settings.verifyReturnType⟩,
    .frozen (b.tables.unary.total Keyed.size) (b.tables.binary.total Keyed.size)
      (b.tables.variadic.total List.length))

end Builder

end ColumnDispatch
