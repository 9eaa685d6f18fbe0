/-! Counts that must fit in 64 bits, texts that must fit in memory, and the operations that say so when
they do not. -/

namespace Pinpoint

/-- What does not fit: the result of an arithmetic operation, or a text that is to be written. -/
inductive Overflow where
  | add
  | subtract
  | multiply
  | capacity
  deriving DecidableEq

namespace Overflow

def message : Overflow → String
  | add => "attempt to add with overflow"
  | subtract => "attempt to subtract with overflow"
  | multiply => "attempt to multiply with overflow"
  | capacity => "capacity overflow"

end Overflow

/-- A computation that stops at the first thing that does not fit. -/
abbrev Checked := Except Overflow

namespace Count

/-- Counts are the naturals of at most 64 bits, those below this bound. -/
def limit : Nat := 0x10000000000000000

def add (a b : Nat) : Checked Nat :=
  if a + b < limit then .ok (a + b) else .error .add

def sub (a b : Nat) : Checked Nat :=
  if b ≤ a then .ok (a - b) else .error .subtract

def mul (a b : Nat) : Checked Nat :=
  if a * b < limit then .ok (a * b) else .error .multiply

/-- A text has fewer bytes than this, half the limit of counts. -/
def textLimit : Nat := 0x8000000000000000

/-- The size in bytes of a text that fits in memory. -/
def textSize (bytes : Nat) : Checked Nat :=
  if bytes < textLimit then .ok bytes else .error .capacity

variable {a b c : Nat}

theorem add_eq_ok_iff : add a b = .ok c ↔ a + b = c ∧ c < limit := by
  unfold add
  split <;> simp <;> omega

theorem sub_eq_ok_iff : sub a b = .ok c ↔ b + c = a := by
  unfold sub
  split <;> simp <;> omega

theorem mul_eq_ok_iff : mul a b = .ok c ↔ a * b = c ∧ c < limit := by
  unfold mul
  split <;> simp <;> omega

theorem textSize_eq_ok_iff : textSize a = .ok c ↔ a = c ∧ c < textLimit := by
  unfold textSize
  split <;> simp <;> omega

end Count

end Pinpoint
