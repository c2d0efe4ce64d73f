/-! Powers. `x ^ k` is read as the power that the core library computes, also where a larger library
offers the one of a monoid. -/

attribute [instance (1100), default_instance (20000)] instPowNat
