import FlagEngine.Number.Binary64

/-!
# Arithmetic of magnitudes

Operations on binary64 magnitudes, counted in units of `2 ^ -1074` and rounded to 53 significant bits.
Results at or past `Binary64.limit` stand for infinity.
-/

namespace FlagEngine.Magnitude

def ofNat (n : Nat) : Nat :=
  roundSignificant (n * Binary64.one) 1

def add (a b : Nat) : Nat :=
  roundSignificant (a + b) 1

def mul (a b : Nat) : Nat :=
  roundSignificant (a * b) Binary64.one

def div (a b : Nat) : Nat :=
  roundSignificant (a * Binary64.one) b

/-- The product, with infinity in place of what is too large. -/
def mulSaturating (a b : Nat) : Nat :=
  min (mul a b) Binary64.limit

end FlagEngine.Magnitude
