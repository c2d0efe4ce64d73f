/-! Settings of a registry: whether the built-in kernels are registered when a builder is made, and
whether the type of every kernel result is checked against the declared one. -/

namespace ColumnDispatch

structure Settings where
  includeBuiltins : Bool := true
  verifyReturnType : Bool := true
  deriving DecidableEq, Repr

namespace Settings

def withBuiltins (s : Settings) (b : Bool) : Settings := { s with includeBuiltins := b }

def withVerifyReturnType (s : Settings) (b : Bool) : Settings := { s with verifyReturnType := b }

end Settings

end ColumnDispatch
