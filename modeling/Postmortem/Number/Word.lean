/-!
# Machine words

Sums and products of 32-bit numbers. One that does not fit is no number: the computation that it
is part of breaks down.
-/

-- `2 ^ 32` is the power of the core library, also where algebra is imported
attribute [default_instance 20000] instPowNat

namespace Postmortem

/-- The operation whose result did not fit. -/
inductive Overflow where
  | addition
  | multiplication
deriving DecidableEq, Repr

/-- The message of an overflow. -/
def Overflow.message : Overflow → String
  | addition => "attempt to add with overflow"
  | multiplication => "attempt to multiply with overflow"

/-- The sum of two numbers, if it fits in 32 bits. -/
def add32 (m n : Nat) : Except Overflow Nat :=
  if m + n < 2 ^ 32 then .ok (m + n) else .error .addition

/-- The product of two numbers, if it fits in 32 bits. -/
def mul32 (m n : Nat) : Except Overflow Nat :=
  if m * n < 2 ^ 32 then .ok (m * n) else .error .multiplication

end Postmortem
