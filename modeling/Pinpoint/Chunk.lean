import Pinpoint.Text.Inspect

/-! Chunks: windows onto a shared buffer of tokens. A chunk is known by its `toList`. -/

namespace Pinpoint

/-- The tokens of `buffer` from `start` up to `stop`. -/
structure Chunk (τ : Type) where
  buffer : Array τ
  start : Nat
  stop : Nat
  start_le_stop : start ≤ stop
  stop_le_size : stop ≤ buffer.size

/-- Why a range is no window of a buffer. -/
inductive Chunk.RangeFault where
  | backwards
  | pastEnd
  deriving DecidableEq

namespace Chunk

variable {τ : Type}

def RangeFault.message : RangeFault → String
  | backwards => "assertion failed: start <= end"
  | pastEnd => "assertion failed: end <= buffer.len()"

/-- The window of a given range. A range that runs backwards is refused before one that runs past
the end. -/
def ofRange (buffer : Array τ) (start stop : Nat) : Except RangeFault (Chunk τ) :=
  if h₁ : start ≤ stop then
    if h₂ : stop ≤ buffer.size then .ok ⟨buffer, start, stop, h₁, h₂⟩ else .error .pastEnd
  else .error .backwards

def ofArray (buffer : Array τ) : Chunk τ :=
  ⟨buffer, 0, buffer.size, Nat.zero_le _, Nat.le_refl _⟩

def ofList (tokens : List τ) : Chunk τ := ofArray tokens.toArray

def ofString (text : String) : Chunk Char := ofList text.toList

def empty : Chunk τ := ofArray #[]

instance : Inhabited (Chunk τ) := ⟨empty⟩

def size (c : Chunk τ) : Nat := c.stop - c.start

def isEmpty (c : Chunk τ) : Bool := c.size == 0

def toList (c : Chunk τ) : List τ := (c.buffer.extract c.start c.stop).toList

def get? (c : Chunk τ) (i : Nat) : Option τ :=
  if i < c.size then c.buffer[c.start + i]? else none

/-- The first `n` tokens and the others. Both windows share the buffer. -/
def splitAt (c : Chunk τ) (n : Nat) : Chunk τ × Chunk τ :=
  let middle := c.start + min n c.size
  have lower : c.start ≤ middle := Nat.le_add_right ..
  have upper : middle ≤ c.stop := by
    have := c.start_le_stop
    simp only [middle, size]
    omega
  (⟨c.buffer, c.start, middle, lower, Nat.le_trans upper c.stop_le_size⟩,
   ⟨c.buffer, middle, c.stop, upper, c.stop_le_size⟩)

instance [BEq τ] : BEq (Chunk τ) := ⟨fun a b => a.toList == b.toList⟩

instance [Inspect τ] : Inspect (Chunk τ) := ⟨fun c => inspect c.toList⟩

instance : ToText (Chunk Char) := ⟨fun c => String.ofList c.toList⟩

theorem toList_eq (c : Chunk τ) : c.toList = (c.buffer.toList.drop c.start).take c.size := by
  simp [toList, size]

@[simp] theorem toList_ofArray (buffer : Array τ) : (ofArray buffer).toList = buffer.toList := by
  simp [toList, ofArray]

@[simp] theorem toList_ofList (tokens : List τ) : (ofList tokens).toList = tokens := by
  simp [ofList]

@[simp] theorem toList_empty : (empty : Chunk τ).toList = [] := rfl

@[simp] theorem length_toList (c : Chunk τ) : c.toList.length = c.size := by
  have := c.start_le_stop
  have := c.stop_le_size
  simp only [toList_eq, List.length_take, List.length_drop, Array.length_toList, size]
  omega

theorem isEmpty_iff (c : Chunk τ) : c.isEmpty = true ↔ c.toList = [] := by
  rw [← List.length_eq_zero_iff, length_toList, isEmpty, beq_iff_eq]

@[simp] theorem toList_splitAt_fst (c : Chunk τ) (n : Nat) :
    (c.splitAt n).1.toList = c.toList.take n := by
  simp only [toList_eq, List.take_take]
  congr 1
  simp [splitAt, size]

@[simp] theorem toList_splitAt_snd (c : Chunk τ) (n : Nat) :
    (c.splitAt n).2.toList = c.toList.drop n := by
  have := c.start_le_stop
  simp only [toList_eq, splitAt, size, List.drop_take, List.drop_drop]
  rcases Nat.le_total n (c.stop - c.start) with h | h
  · rw [Nat.min_eq_left h]
    congr 1
    omega
  · rw [Nat.min_eq_right h, Nat.sub_eq_zero_of_le (by omega), Nat.sub_eq_zero_of_le h]
    simp

theorem splitAt_zero_snd (c : Chunk τ) : (c.splitAt 0).2 = c := by
  simp [splitAt]

theorem getElem?_toList (c : Chunk τ) (i : Nat) : c.toList[i]? = c.get? i := by
  simp [toList_eq, get?, List.getElem?_take]

end Chunk

end Pinpoint
