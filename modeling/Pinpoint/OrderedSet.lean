import Pinpoint.Text.Inspect

/-! Sets that remember the order in which their items came. -/

namespace Pinpoint

/-- Items in the order of their insertion. Order counts when the set is shown and not when it is
compared. -/
structure OrderedSet (α : Type) where
  items : List α

namespace OrderedSet

variable {α : Type}

def empty : OrderedSet α := ⟨[]⟩

instance : Inhabited (OrderedSet α) := ⟨empty⟩

def size (s : OrderedSet α) : Nat := s.items.length

def isEmpty (s : OrderedSet α) : Bool := s.items.isEmpty

section Equality

variable [BEq α]

/-- Some item of the set equals `a`. The item stands on the left of `==`. -/
def contains (s : OrderedSet α) (a : α) : Bool := s.items.any (· == a)

/-- The set with `a` at its end, or as it was if it contains `a`, and whether it grew. -/
def tryInsert (s : OrderedSet α) (a : α) : OrderedSet α × Bool :=
  if s.contains a then (s, false) else (⟨s.items ++ [a]⟩, true)

def insert (s : OrderedSet α) (a : α) : OrderedSet α := (s.tryInsert a).1

def insertMany (s : OrderedSet α) (as : List α) : OrderedSet α := as.foldl insert s

def ofList (as : List α) : OrderedSet α := empty.insertMany as

/-- The items of `s`, then those of `t` that are not among them. -/
def union (s t : OrderedSet α) : OrderedSet α := s.insertMany t.items

instance : BEq (OrderedSet α) := ⟨fun s t => s.size == t.size && s.items.all t.contains⟩

/-- No item equals one inserted after it. -/
def Distinct (s : OrderedSet α) : Prop := s.items.Pairwise fun a b => (a == b) = false

theorem insert_eq (s : OrderedSet α) (a : α) :
    s.insert a = if s.contains a then s else ⟨s.items ++ [a]⟩ := by
  unfold insert tryInsert
  split <;> rfl

/-- The answer says whether there is one item more. -/
theorem size_insert (s : OrderedSet α) (a : α) :
    (s.insert a).size = if (s.tryInsert a).2 then s.size + 1 else s.size := by
  unfold insert tryInsert
  split
  · rfl
  · exact List.length_append

@[simp] theorem insertMany_nil (s : OrderedSet α) : s.insertMany [] = s := rfl

@[simp] theorem insertMany_cons (s : OrderedSet α) (a : α) (as : List α) :
    s.insertMany (a :: as) = (s.insert a).insertMany as := rfl

theorem insertMany_append (s : OrderedSet α) (as bs : List α) :
    s.insertMany (as ++ bs) = (s.insertMany as).insertMany bs :=
  List.foldl_append

theorem distinct_empty : (empty : OrderedSet α).Distinct := List.Pairwise.nil

theorem Distinct.insert {s : OrderedSet α} (h : s.Distinct) (a : α) : (s.insert a).Distinct := by
  rw [insert_eq]
  split
  · exact h
  · next ha =>
    have new : ∀ b ∈ s.items, (b == a) = false := by simpa [contains] using ha
    exact List.pairwise_append.2 ⟨h, List.pairwise_singleton .., by simpa using new⟩

theorem Distinct.insertMany {s : OrderedSet α} (h : s.Distinct) (as : List α) :
    (s.insertMany as).Distinct := by
  induction as generalizing s with
  | nil => exact h
  | cons a as ih => exact ih (h.insert a)

end Equality

instance [Inspect α] : Inspect (OrderedSet α) := ⟨fun s => Inspect.record "ErrorSet"
  [("items", inspect s.items)]⟩

end OrderedSet

end Pinpoint
