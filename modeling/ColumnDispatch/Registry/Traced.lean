import ColumnDispatch.Event
import ColumnDispatch.Failure

/-! Computations that report events and may fail. What was reported before a failure stays. -/

namespace ColumnDispatch

structure Traced (α : Type) where
  events : List Event
  result : Except Failure α

namespace Traced

variable {α β : Type}

def fail (failure : Failure) (events : List Event) : Traced α := ⟨events, .error failure⟩

def ofExcept (result : Except Failure α) : Traced α := ⟨[], result⟩

protected def bind (x : Traced α) (f : α → Traced β) : Traced β :=
  match x.result with
  | .ok a => ⟨x.events ++ (f a).events, (f a).result⟩
  | .error failure => ⟨x.events, .error failure⟩

instance : Monad Traced where
  pure a := ⟨[], .ok a⟩
  bind := Traced.bind

theorem result_map (f : α → β) (x : Traced α) : (f <$> x).result = x.result.map f := by
  obtain ⟨events, result⟩ := x
  cases result <;> rfl

end Traced

end ColumnDispatch
