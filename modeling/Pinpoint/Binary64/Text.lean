import Pinpoint.Binary64.Shortest
import Pinpoint.Text.Inspect

/-! How numbers are written: in full from `10 ^ -4` to below `10 ^ 16`, and with a power of ten
elsewhere. -/

namespace Pinpoint

namespace Decimal

def orZero : List Char → List Char
  | [] => ['0']
  | cs => cs

/-- The digits with a point after the first `point` of them. Zeros fill the gap between the digits and
the point, and each side of the point has a digit. -/
def positional (digits : List Char) (point : Int) : String :=
  let whole := digits.take point.toNat ++ List.replicate (point.toNat - digits.length) '0'
  let fraction := List.replicate (-point).toNat '0' ++ digits.drop point.toNat
  String.ofList (orZero whole ++ '.' :: orZero fraction)

/-- One digit, the others after a point if there are any, and the power of ten. -/
def scientific (digits : List Char) (point : Int) : String :=
  let fraction := digits.drop 1
  let tail := if fraction.isEmpty then [] else '.' :: fraction
  String.ofList (digits.take 1 ++ tail) ++ "e" ++ (point - 1).repr

def text (d : Decimal) : String :=
  let digits := Nat.toDigits 10 d.digits
  let point := d.exponent + digits.length
  if -4 < point ∧ point ≤ 16 then positional digits point else scientific digits point

end Decimal

namespace Binary64

/-- A zero keeps its sign, and NaN has none. -/
def text (x : Binary64) : String :=
  if x.isNaN then
    "NaN"
  else
    (if x.isNegative then "-" else "") ++ if x.isInfinite then "inf" else x.parts.shortest.text

end Binary64

instance : Inspect Binary64 := ⟨Binary64.text⟩

end Pinpoint
