import Pinpoint.Text.Inspect

/-! Three-way comparisons as values, so that a type need not know how it is ordered. -/

namespace Pinpoint

/-- Numbers by `<`. Two that are neither less nor greater, such as an undefined one and any other,
count as equal. -/
def compareByLT {α : Type} [LT α] [DecidableLT α] (a b : α) : Ordering :=
  if a < b then .lt else if b < a then .gt else .eq

/-- A named way to compare two values. -/
structure Comparator (α : Type) where
  name : String
  compare : α → α → Ordering

namespace Comparator

variable {α β : Type}

def equals (c : Comparator α) (a b : α) : Bool := c.compare a b == .eq

def lessThan (c : Comparator α) (a b : α) : Bool := c.compare a b == .lt

def greaterThan (c : Comparator α) (a b : α) : Bool := c.compare a b == .gt

/-- The order of the type itself. -/
def natural [Ord α] : Comparator α := ⟨"Natural", Ord.compare⟩

def numbers [LT α] [DecidableLT α] : Comparator α := ⟨"Numbers", compareByLT⟩

/-- By the value of a key. -/
def on (c : Comparator β) (key : α → β) : Comparator α :=
  ⟨Inspect.variant "ByKey" c.name, fun a b => c.compare (key a) (key b)⟩

instance : Inspect (Comparator α) := ⟨Comparator.name⟩

end Comparator

end Pinpoint
