import Pinpoint.Binary64.Basic

/-! The shortest decimal that reads back as a given number. Decimals are searched from the coarsest
grid of powers of ten to the finest, and the first that reads back is taken. -/

namespace Pinpoint

/-- The number `digits * 10 ^ exponent`. -/
structure Decimal where
  digits : Nat
  exponent : Int
  deriving DecidableEq

namespace Binary64

/-- A finite number without its sign, `mantissa * 2 ^ exponent`. -/
structure Parts where
  mantissa : Nat
  exponent : Int
  /-- The number is a power of two, and the gap below it is half the gap above. -/
  narrowBelow : Bool

/-- The parts of a pattern that is neither infinite nor NaN. Where the exponent field is zero the
fraction has no leading one, and the gap is that of the field one. -/
def parts (x : Binary64) : Parts :=
  if x.exponentField = 0 then
    ⟨x.fractionField, -1074, false⟩
  else
    ⟨exponentWeight + x.fractionField, x.exponentField - 1075,
      x.fractionField == 0 && x.exponentField != 1⟩

namespace Parts

variable {x : Parts} {d : Decimal}

/-- The gap above `x` is `gapNum / gapDen` units of `10 ^ g`, so `x` itself is
`mantissa * gapNum / gapDen` of them. -/
def gapNum (x : Parts) (g : Int) : Nat := Nat.pow 2 x.exponent.toNat * Nat.pow 10 (-g).toNat

def gapDen (x : Parts) (g : Int) : Nat := Nat.pow 2 (-x.exponent).toNat * Nat.pow 10 g.toNat

/-- Half way to the number below, or a quarter of the gap above where the gap below is narrow. The
unit is a quarter of `10 ^ g / gapDen`. -/
def lower (x : Parts) (g : Int) : Nat :=
  (4 * x.mantissa - if x.narrowBelow then 1 else 2) * x.gapNum g

/-- Half way to the number above, in the same unit. -/
def upper (x : Parts) (g : Int) : Nat := (4 * x.mantissa + 2) * x.gapNum g

/-- No number is nearer to the decimal than `x`. A decimal half way between two numbers reads back as
the one with the even mantissa. -/
def ReadsBack (x : Parts) (d : Decimal) : Prop :=
  x.lower d.exponent + x.mantissa % 2 ≤ 4 * (d.digits * x.gapDen d.exponent) ∧
    4 * (d.digits * x.gapDen d.exponent) + x.mantissa % 2 ≤ x.upper d.exponent

instance : Decidable (x.ReadsBack d) :=
  inferInstanceAs (Decidable (x.lower d.exponent + x.mantissa % 2 ≤
    4 * (d.digits * x.gapDen d.exponent) ∧
    4 * (d.digits * x.gapDen d.exponent) + x.mantissa % 2 ≤ x.upper d.exponent))

/-- How many times `10 ^ g` goes into `x`. -/
def floor (x : Parts) (g : Int) : Nat := x.mantissa * x.gapNum g / x.gapDen g

/-- The multiple of `10 ^ g` that reads back as `x`, if there is one. Of the two neighbours of `x` the
nearer is taken, and the upper one when they are equally near. -/
def onGrid? (x : Parts) (g : Int) : Option Decimal :=
  if x.ReadsBack ⟨x.floor g, g⟩ ∧ (x.ReadsBack ⟨x.floor g + 1, g⟩ →
      2 * (x.mantissa * x.gapNum g) < (2 * x.floor g + 1) * x.gapDen g) then
    some ⟨x.floor g, g⟩
  else if x.ReadsBack ⟨x.floor g + 1, g⟩ then
    some ⟨x.floor g + 1, g⟩
  else
    none

/-- The exponent of a grid that holds `x` itself. -/
def finest (x : Parts) : Int := if x.exponent < 0 then x.exponent else 0

/-- The decimal equal to `x`. -/
def toDecimal (x : Parts) : Decimal :=
  ⟨x.mantissa * (Nat.pow 2 x.exponent.toNat * Nat.pow 5 (-x.exponent).toNat), x.finest⟩

/-- The decimal that reads back on the coarsest grid, among those at most `n` above the finest. -/
def search (x : Parts) : Nat → Decimal
  | 0 => x.toDecimal
  | n + 1 =>
    match x.onGrid? (x.finest + (n + 1)) with
    | some d => d
    | none => x.search n

/-- No number reaches this power of ten. -/
def topExponent : Int := 309

/-- The fewest digits that read back. Zero has no coarsest grid, and is written as such. -/
def shortest (x : Parts) : Decimal :=
  if x.mantissa = 0 then ⟨0, 0⟩ else x.search (topExponent - x.finest).toNat

end Parts

end Binary64

end Pinpoint
