import Pinpoint.Count
import Pinpoint.Text.Inspect

/-! Tab widths and the column a tab leads to. -/

namespace Pinpoint

/-- A distance between tab stops, never zero. -/
structure TabWidth where
  columns : Nat
  pos : 0 < columns
  deriving DecidableEq

/-- The width that was refused. -/
inductive TabWidth.Fault where
  | zero
  deriving DecidableEq

namespace TabWidth

def Fault.message : Fault → String
  | zero => "tab width must be at least 1, got 0"

def ofNat (columns : Nat) : Except Fault TabWidth :=
  if h : 0 < columns then .ok ⟨columns, h⟩ else .error .zero

/-- Eight columns. -/
def standard : TabWidth := ⟨8, by decide⟩

instance : Inhabited TabWidth := ⟨standard⟩

instance : Inspect TabWidth := ⟨fun w => Inspect.variant "TabWidth" (inspect w.columns)⟩

/-- The column after a tab at `column`: the first one past it that lies a multiple of the width
beyond column 1. Columns count from 1. -/
def nextStop (w : TabWidth) (column : Nat) : Checked Nat := do
  let before ← Count.sub column 1
  let stops ← Count.add (before / w.columns) 1
  let columns ← Count.mul stops w.columns
  Count.add columns 1

theorem ofNat_eq_error_iff {n : Nat} {f : Fault} : ofNat n = .error f ↔ n = 0 := by
  cases f
  unfold ofNat
  split <;> simp <;> omega

end TabWidth

end Pinpoint
