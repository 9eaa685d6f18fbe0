import Pinpoint.Binary64.Basic
import Pinpoint.Order.Lexicographic
import Pinpoint.Stream.Chunks

/-! The order that lists have from the order of their elements. The first unequal pair decides it, and
it is mirrored, or a total preorder, if the order of the elements is. -/

namespace Pinpoint

open Std

theorem compareByLT_eq_compare (m n : Nat) : compareByLT m n = compare m n :=
  (Nat.compare_eq_ite_lt m n).symm

theorem compareByLT_succ (m n : Nat) : compareByLT (m + 1) (n + 1) = compareByLT m n := by
  simp only [compareByLT, Nat.add_lt_add_iff_right]

instance orientedCmp_compareByLT {α : Type} [LT α] [DecidableLT α] [Asymm (fun a b : α => a < b)] :
    OrientedCmp (compareByLT (α := α)) where
  eq_swap {a b} := by
    unfold compareByLT
    by_cases hab : a < b
    · have hba : ¬ b < a := Asymm.asymm (r := fun a b : α => a < b) a b hab
      rw [if_pos hab, if_neg hba, if_pos hab]
      rfl
    · rw [if_neg hab, if_neg hab]
      split <;> rfl

/-- Undefined numbers are below none, not even one another. -/
instance asymm_binary64 : Asymm (fun x y : Binary64 => x < y) where
  asymm x y hxy hyx := by
    have hlt : x.rank < y.rank := hxy.2.2
    have hgt : y.rank < x.rank := hyx.2.2
    omega

/-- One and zero both equal an undefined number and not each other. -/
theorem not_transCmp_compareByLT : ¬ TransCmp (compareByLT (α := Binary64)) := by
  intro h
  have hle : (compareByLT (⟨0x3FF0000000000000⟩ : Binary64) ⟨0⟩).isLE :=
    h.isLE_trans (b := ⟨0x7FF8000000000000⟩) (by decide) (by decide)
  exact absurd hle (by decide)

section Lists

variable {α : Type} {cmp : α → α → Ordering} {xs ys : List α}

/-- The first unequal pair decides, and where there is none the lengths do. -/
theorem compareLists_eq_find? (cmp : α → α → Ordering) (xs ys : List α) :
    compareLists cmp xs ys =
      ((List.zipWith cmp xs ys).find? (· != .eq)).getD (compareByLT xs.length ys.length) := by
  induction xs generalizing ys with
  | nil => cases ys <;> rfl
  | cons x xs ih =>
    cases ys with
    | nil => rfl
    | cons y ys =>
      rw [compareLists, ih, List.zipWith_cons_cons, List.find?_cons, List.length_cons,
        List.length_cons, compareByLT_succ]
      cases cmp x y <;> rfl

/-- An answer other than equality comes from the first pair that is not equal, or from the lengths
after all pairs. -/
theorem compareLists_eq_iff_of_ne {order : Ordering} (h : order ≠ .eq) :
    compareLists cmp xs ys = order ↔
      ∃ i, (∀ j < i, (List.zipWith cmp xs ys)[j]? = some .eq) ∧
        (i = min xs.length ys.length ∧ compareByLT xs.length ys.length = order ∨
          (List.zipWith cmp xs ys)[i]? = some order) := by
  rw [compareLists_eq_find?, Option.getD_eq_iff, List.find?_eq_some_iff_getElem, List.find?_eq_none,
    ← List.length_zipWith (f := cmp)]
  generalize List.zipWith cmp xs ys = pairs
  constructor
  · rintro (⟨-, i, hi, rfl, hbefore⟩ | ⟨hall, hlength⟩)
    · refine ⟨i, ?_, Or.inr (List.getElem?_eq_getElem hi)⟩
      intro j hj
      exact List.getElem?_eq_some_iff.2 ⟨by omega, by simpa using hbefore j hj⟩
    · refine ⟨pairs.length, ?_, Or.inl ⟨rfl, hlength⟩⟩
      intro j hj
      exact List.getElem?_eq_some_iff.2 ⟨hj, by simpa using hall _ (List.getElem_mem hj)⟩
  · rintro ⟨i, hbefore, ⟨rfl, hlength⟩ | hi⟩
    · refine Or.inr ⟨?_, hlength⟩
      intro pair hpair
      obtain ⟨j, hj, rfl⟩ := List.getElem_of_mem hpair
      obtain ⟨_, heq⟩ := List.getElem?_eq_some_iff.1 (hbefore j hj)
      simp [heq]
    · obtain ⟨hlt, hget⟩ := List.getElem?_eq_some_iff.1 hi
      refine Or.inl ⟨by simpa using h, i, hlt, hget, ?_⟩
      intro j hj
      obtain ⟨_, heq⟩ := List.getElem?_eq_some_iff.1 (hbefore j hj)
      simp [heq]

theorem compareLists_eq_lt_iff : compareLists cmp xs ys = .lt ↔
    ∃ i, (∀ j < i, (List.zipWith cmp xs ys)[j]? = some .eq) ∧
      (i = xs.length ∧ i < ys.length ∨ (List.zipWith cmp xs ys)[i]? = some .lt) := by
  have hlength (i : Nat) :
      i = min xs.length ys.length ∧ compareByLT xs.length ys.length = .lt ↔
        i = xs.length ∧ i < ys.length := by
    rw [compareByLT_eq_compare, Nat.compare_eq_lt]
    omega
  have hne : Ordering.lt ≠ .eq := nofun
  simp only [compareLists_eq_iff_of_ne hne, hlength]

theorem compareLists_eq_gt_iff : compareLists cmp xs ys = .gt ↔
    ∃ i, (∀ j < i, (List.zipWith cmp xs ys)[j]? = some .eq) ∧
      (i = ys.length ∧ i < xs.length ∨ (List.zipWith cmp xs ys)[i]? = some .gt) := by
  have hlength (i : Nat) :
      i = min xs.length ys.length ∧ compareByLT xs.length ys.length = .gt ↔
        i = ys.length ∧ i < xs.length := by
    rw [compareByLT_eq_compare, Nat.compare_eq_gt]
    omega
  have hne : Ordering.gt ≠ .eq := nofun
  simp only [compareLists_eq_iff_of_ne hne, hlength]

theorem compareLists_eq_eq_iff : compareLists cmp xs ys = .eq ↔
    xs.length = ys.length ∧ ∀ pair ∈ List.zipWith cmp xs ys, pair = .eq := by
  rw [compareLists_eq_find?, Option.getD_eq_iff, List.find?_eq_some_iff_getElem, List.find?_eq_none,
    compareByLT_eq_compare, Nat.compare_eq_eq]
  simp [and_comm]

theorem compareLists_eq_compareLex (cmp : α → α → Ordering) :
    compareLists cmp = List.compareLex cmp := by
  funext xs ys
  induction xs generalizing ys with
  | nil => cases ys <;> rfl
  | cons x xs ih =>
    cases ys with
    | nil => rfl
    | cons y ys => rw [compareLists, ih, List.compareLex_cons_cons]

instance orientedCmp_compareLists [OrientedCmp cmp] : OrientedCmp (compareLists cmp) := by
  rw [compareLists_eq_compareLex]
  infer_instance

instance transCmp_compareLists [TransCmp cmp] : TransCmp (compareLists cmp) := by
  rw [compareLists_eq_compareLex]
  infer_instance

end Lists

variable {α : Type}

/-- Lists of lists of values, so many deep. -/
def Nested (α : Type) : Nat → Type
  | 0 => α
  | depth + 1 => List (Nested α depth)

/-- The comparator lifted to lists once for each level of nesting. -/
def Comparator.nested (c : Comparator α) : (depth : Nat) → Comparator (Nested α depth)
  | 0 => c
  | depth + 1 => (Lexicographic.mk (c.nested depth)).comparator

/-- All comparisons of lists and chunks that come from a comparator have the property. -/
structure Comparator.Lifts (P : {β : Type} → (β → β → Ordering) → Prop) (c : Comparator α) :
    Prop where
  lists : P (compareLists c.compare)
  comparator : P (Lexicographic.mk c).comparator.compare
  chunks : P (ChunkStream.mk c).stream.compareChunks
  nested (depth : Nat) : P (c.nested depth).compare

/-- A property lifts if lists get it from their elements and values from their keys. -/
theorem Comparator.lifts_of_lists {P : {β : Type} → (β → β → Ordering) → Prop}
    (lists : ∀ {β : Type} {cmp : β → β → Ordering}, P cmp → P (compareLists cmp))
    (on : ∀ {β γ : Type} {cmp : β → β → Ordering} (key : γ → β), P cmp →
      P fun a b => cmp (key a) (key b))
    {c : Comparator α} (h : P c.compare) : c.Lifts P where
  lists := lists h
  comparator := lists h
  chunks := on Chunk.toList (lists h)
  nested depth := by
    induction depth with
    | zero => exact h
    | succ depth ih => exact lists ih

theorem Comparator.lifts_oriented {c : Comparator α} (h : OrientedCmp c.compare) :
    c.Lifts OrientedCmp := by
  refine lifts_of_lists ?_ ?_ h
  · intro β cmp hcmp
    exact orientedCmp_compareLists
  · intro β γ cmp key hcmp
    exact ⟨hcmp.eq_swap⟩

theorem Comparator.lifts_trans {c : Comparator α} (h : TransCmp c.compare) : c.Lifts TransCmp := by
  refine lifts_of_lists ?_ ?_ h
  · intro β cmp hcmp
    exact transCmp_compareLists
  · intro β γ cmp key hcmp
    exact { eq_swap := hcmp.eq_swap, isLE_trans := hcmp.isLE_trans }

/-- Lists are ordered by the first pair that is not equal, and where one list is at its end before
such a pair comes, it is the lesser one. If the comparator answers in mirror image when its arguments
are swapped, so does all that is lifted from it, transitive or not: the comparison of numbers is so,
and undefined ones keep it from being transitive. If the comparator is a total preorder, mirrored and
transitive, so is all that is lifted from it, to lists, to chunks and to any depth. -/
theorem Comparator.lists_by_first_difference (c : Comparator α) :
    (∀ xs ys : List α,
      let pairs := List.zipWith c.compare xs ys
      (compareLists c.compare xs ys = .lt ↔ ∃ i, (∀ j < i, pairs[j]? = some .eq) ∧
        (i = xs.length ∧ i < ys.length ∨ pairs[i]? = some .lt)) ∧
      (compareLists c.compare xs ys = .gt ↔ ∃ i, (∀ j < i, pairs[j]? = some .eq) ∧
        (i = ys.length ∧ i < xs.length ∨ pairs[i]? = some .gt)) ∧
      (compareLists c.compare xs ys = .eq ↔
        xs.length = ys.length ∧ ∀ pair ∈ pairs, pair = .eq)) ∧
    (OrientedCmp c.compare → c.Lifts OrientedCmp) ∧
    (OrientedCmp (numbers (α := Binary64)).compare ∧
      ¬ TransCmp (numbers (α := Binary64)).compare) ∧
    (TransCmp c.compare → c.Lifts TransCmp) := by
  refine ⟨?_, lifts_oriented, ⟨orientedCmp_compareByLT, not_transCmp_compareByLT⟩, lifts_trans⟩
  intro xs ys pairs
  exact ⟨compareLists_eq_lt_iff, compareLists_eq_gt_iff, compareLists_eq_eq_iff⟩

/-- Letters in either case are one for the comparator, and a list at its end is less. Numbers with an
undefined one among them pass over it, in mirror image when swapped. -/
theorem Comparator.lists_by_first_difference_ignoringCase :
    let c : Comparator Char := Comparator.natural.on Char.toLower
    let numbers : Comparator Binary64 := .numbers
    let zero : Binary64 := ⟨0⟩
    let one : Binary64 := ⟨0x3FF0000000000000⟩
    let undefined : Binary64 := ⟨0x7FF8000000000000⟩
    compareLists c.compare ['A', 'b'] ['a', 'B', 'c'] = .lt ∧
      compareLists c.compare ['x', 'B'] ['X', 'a', 'c'] = .gt ∧
      TransCmp c.compare ∧ c.Lifts TransCmp ∧
      compareLists numbers.compare [undefined, zero] [one, one] = .lt ∧
      compareLists numbers.compare [one, one] [undefined, zero] = .gt ∧
      OrientedCmp numbers.compare ∧ numbers.Lifts OrientedCmp := by
  intro c numbers zero one undefined
  have hc : TransCmp c.compare :=
    { eq_swap := OrientedOrd.eq_swap, isLE_trans := TransOrd.isLE_trans }
  have hnumbers : OrientedCmp numbers.compare := orientedCmp_compareByLT
  obtain ⟨hletters, -, -, htrans⟩ := lists_by_first_difference c
  obtain ⟨hpairs, horiented, -⟩ := lists_by_first_difference numbers
  have hmirror := (horiented hnumbers).lists.eq_swap (a := [one, one]) (b := [undefined, zero])
  have hlt : compareLists numbers.compare [undefined, zero] [one, one] = .lt :=
    (hpairs _ _).1.2 ⟨1, by decide, Or.inr (by decide)⟩
  refine ⟨(hletters _ _).1.2 ⟨2, by decide, Or.inl (by decide)⟩,
    (hletters _ _).2.1.2 ⟨1, by decide, Or.inr rfl⟩, hc, htrans hc, hlt, ?_, hnumbers,
    horiented hnumbers⟩
  rw [hmirror, hlt]
  rfl

end Pinpoint
