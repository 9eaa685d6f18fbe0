import Pinpoint.TabWidth

/-! Named places in a text, and how they move. -/

namespace Pinpoint

/-- A place in a named source. Lines and columns count from 1. -/
structure Location where
  name : String
  line : Nat
  column : Nat
  deriving DecidableEq

namespace Location

def start (name : String) : Location := ⟨name, 1, 1⟩

/-- The place with the given line and column, a zero raised to 1. -/
def clamped (name : String) (line column : Nat) : Location := ⟨name, max line 1, max column 1⟩

instance : Inhabited Location := ⟨start ""⟩

/-- To the first column of the next line. -/
def newline (l : Location) : Checked Location := do
  let line ← Count.add l.line 1
  return { l with line, column := 1 }

/-- To the next tab stop. -/
def tab (w : TabWidth) (l : Location) : Checked Location := do
  let column ← w.nextStop l.column
  return { l with column }

/-- One column to the right. -/
def step (l : Location) : Checked Location := do
  let column ← Count.add l.column 1
  return { l with column }

instance : ToText Location := ⟨fun l => l.name ++ ":" ++ l.line.repr ++ ":" ++ l.column.repr⟩

instance : Inspect Location := ⟨fun l => Inspect.record "SourcePosition"
  [("name", inspect l.name), ("line", inspect l.line), ("column", inspect l.column)]⟩

end Location

end Pinpoint
