import Mathlib.Data.List.Induction
import Pinpoint.Proofs.OrderedSet

/-! Ways of filling a set. Items may be inserted one after another, or made a set of their own that is
then united with what is there. The two come to the same exactly if equality is transitive, and then
the set of a list holds the first occurrences of its items. -/

namespace Pinpoint

namespace OrderedSet

variable {α : Type} [BEq α]

/-- The items that equal none of those before them, kept or not. -/
def firstOccurrences (as : List α) : List α :=
  (as.zipIdx.filter fun p => !(as.take p.2).any (· == p.1)).map Prod.fst

theorem firstOccurrences_concat (as : List α) (a : α) : firstOccurrences (as ++ [a]) =
    if as.any (· == a) then firstOccurrences as else firstOccurrences as ++ [a] := by
  have hbefore : as.zipIdx.filter (fun p => !((as ++ [a]).take p.2).any (· == p.1)) =
      as.zipIdx.filter fun p => !(as.take p.2).any (· == p.1) := by
    apply List.filter_congr
    intro p hp
    have hlt : p.2 < as.length := (List.mem_zipIdx' hp).1
    rw [List.take_append_of_le_length (Nat.le_of_lt hlt)]
  rw [firstOccurrences, List.zipIdx_append, List.filter_append, hbefore, List.map_append,
    ← firstOccurrences]
  cases h : as.any (· == a) <;> simp [h]

theorem items_insert (s : OrderedSet α) (a : α) :
    (s.insert a).items = if s.contains a then s.items else s.items ++ [a] := by
  rw [insert_eq]
  split <;> rfl

theorem ofList_concat (as : List α) (a : α) : ofList (as ++ [a]) = (ofList as).insert a :=
  insertMany_append empty as [a]

section Transitive

variable [TransBEq α]

/-- An item that was refused has an equal that was kept and stands for it against later ones. -/
theorem contains_ofList_eq (as : List α) (a : α) : (ofList as).contains a = as.any (· == a) := by
  rw [Bool.eq_iff_iff, List.any_eq_true]
  constructor
  · intro h
    obtain ⟨b, hb, hba⟩ := List.any_eq_true.1 h
    exact ⟨b, mem_of_mem_ofList hb, hba⟩
  · rintro ⟨b, hb, hba⟩
    exact contains_of_covers (covers_insertMany empty hb) hba

theorem items_ofList (as : List α) : (ofList as).items = firstOccurrences as := by
  induction as using List.reverseRecOn with
  | nil => rfl
  | append_singleton as a ih =>
    rw [ofList_concat, items_insert, contains_ofList_eq, firstOccurrences_concat, ih]

theorem union_ofList (s : OrderedSet α) (as : List α) : s.union (ofList as) = s.insertMany as :=
  insertMany_items_insertMany s empty as

theorem ofList_append (as bs : List α) : ofList (as ++ bs) = (ofList as).union (ofList bs) := by
  rw [union_ofList]
  exact insertMany_append empty as bs

end Transitive

/-- If `a` equals `b` and `b` equals `c`, then `c` is lost when it comes with `b` and `b` is refused
by `a`. When the three come one after another, `c` has to face `a` itself. -/
theorem transBEq_of_ofList_append
    (h : ∀ as bs : List α, ofList (as ++ bs) = (ofList as).union (ofList bs)) : TransBEq α where
  trans {a b c} hab hbc := by
    by_contra hac
    have hpair : ofList [b, c] = ⟨[b]⟩ := by simp [ofList, insert_eq, contains, empty, hbc]
    have hunion : (ofList [a]).union ⟨[b]⟩ = ⟨[a]⟩ := by
      simp [ofList, union, insert_eq, contains, empty, hab]
    have hrow : ofList ([a] ++ [b, c]) = ⟨[a, c]⟩ := by
      simp [ofList, insert_eq, contains, empty, hab, hac]
    have hsame := h [a] [b, c]
    rw [hrow, hpair, hunion] at hsame
    simp at hsame

/-- Items inserted into a set one after another make it what its union with the set of these items is,
and a list of items makes the set that its two parts make, in both cases down to the order: each of
the two says of equality that it is transitive, and no more. -/
theorem fillings_agree_iff_trans :
    (TransBEq α ↔ ∀ (s : OrderedSet α) (as : List α), s.insertMany as = s.union (ofList as)) ∧
    (TransBEq α ↔ ∀ as bs : List α, ofList (as ++ bs) = (ofList as).union (ofList bs)) := by
  refine ⟨⟨?_, ?_⟩, ⟨?_, transBEq_of_ofList_append⟩⟩
  · intro htrans s as
    exact (union_ofList s as).symm
  · intro h
    apply transBEq_of_ofList_append
    intro as bs
    rw [← h]
    exact insertMany_append empty as bs
  · intro htrans as bs
    exact ofList_append as bs

/-- With numbers that equal their neighbours, the last of three is lost or kept. -/
example :
    let _ : BEq Nat := ⟨fun a b => decide (a ≤ b + 1 ∧ b ≤ a + 1)⟩
    ofList [0, 1, 2] = ⟨[0, 2]⟩ ∧ (ofList [0]).union (ofList [1, 2]) = ⟨[0]⟩ := ⟨rfl, rfl⟩

end OrderedSet

end Pinpoint
