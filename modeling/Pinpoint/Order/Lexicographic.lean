import Pinpoint.Order.Comparator

/-! Lists compared element by element: the first unequal pair decides, and where there is none the
shorter list comes first. -/

namespace Pinpoint

variable {α : Type} {m : Type → Type}

/-- The comparison with an element order that may have effects. Pairs are looked at from the left,
none after the first unequal one. -/
def compareListsM [Monad m] (cmp : α → α → m Ordering) : List α → List α → m Ordering
  | x :: xs, y :: ys => do
    match ← cmp x y with
    | .eq => compareListsM cmp xs ys
    | order => pure order
  | xs, ys => pure (compareByLT xs.length ys.length)

def compareLists (cmp : α → α → Ordering) : List α → List α → Ordering
  | x :: xs, y :: ys => (cmp x y).then (compareLists cmp xs ys)
  | xs, ys => compareByLT xs.length ys.length

theorem compareListsM_pure [Monad m] [LawfulMonad m] (cmp : α → α → Ordering) (xs ys : List α) :
    compareListsM (m := m) (fun x y => pure (cmp x y)) xs ys = pure (compareLists cmp xs ys) := by
  induction xs generalizing ys with
  | nil => cases ys <;> rfl
  | cons x xs ih =>
    cases ys with
    | nil => rfl
    | cons y ys =>
      simp only [compareListsM, compareLists, pure_bind, ih]
      cases cmp x y <;> rfl

/-- The standard order of texts: the lexicographic order of the bytes of their UTF-8 form. -/
def compareUtf8 (a b : String) : Ordering :=
  List.compareLex Ord.compare a.toByteArray.data.toList b.toByteArray.data.toList

/-- A comparator of lists that remembers the comparator of their elements. -/
structure Lexicographic (α : Type) where
  element : Comparator α

namespace Lexicographic

def comparator (l : Lexicographic α) : Comparator (List α) :=
  ⟨Inspect.variant "Lexicographic" l.element.name, compareLists l.element.compare⟩

end Lexicographic

end Pinpoint
