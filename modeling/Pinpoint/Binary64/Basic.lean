/-! Double-precision numbers as bit patterns: their fields, and the equality and order of their
values. -/

namespace Pinpoint

/-- A sign bit, eleven bits of exponent and fifty-two of fraction. -/
structure Binary64 where
  bits : UInt64

namespace Binary64

/-- The weight of the sign bit, the highest of the 64. -/
def signWeight : Nat := 0x8000000000000000

/-- The weight of the lowest exponent bit, above the fifty-two bits of the fraction. -/
def exponentWeight : Nat := 0x10000000000000

/-- The magnitude of infinity: all ones in the exponent, and no fraction. -/
def infinity : Nat := 0x7FF0000000000000

/-- The sign bit is set. -/
def isNegative (x : Binary64) : Bool := signWeight ≤ x.bits.toNat

/-- All bits but the sign. -/
def magnitude (x : Binary64) : Nat := x.bits.toNat % signWeight

def exponentField (x : Binary64) : Nat := x.magnitude / exponentWeight

def fractionField (x : Binary64) : Nat := x.magnitude % exponentWeight

def isInfinite (x : Binary64) : Bool := x.magnitude == infinity

/-- The pattern stands for no number: the exponent is all ones and the fraction is not zero. -/
def isNaN (x : Binary64) : Bool := infinity < x.magnitude

/-- Numbers are ordered as these integers are: magnitudes grow with the value, and both zeros
have magnitude zero. -/
def rank (x : Binary64) : Int :=
  if x.isNegative then -x.magnitude else x.magnitude

instance : BEq Binary64 := ⟨fun x y => !x.isNaN && !y.isNaN && x.rank == y.rank⟩

instance : LT Binary64 := ⟨fun x y => x.isNaN = false ∧ y.isNaN = false ∧ x.rank < y.rank⟩

instance : DecidableLT Binary64 := fun x y =>
  inferInstanceAs (Decidable (x.isNaN = false ∧ y.isNaN = false ∧ x.rank < y.rank))

end Binary64

end Pinpoint
