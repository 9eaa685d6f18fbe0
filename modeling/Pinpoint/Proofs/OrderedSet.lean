import Pinpoint.OrderedSet

/-! What a set keeps of the items offered to it, and the ways of filling a set that come to the same. -/

namespace Pinpoint

/-- Equality is transitive. It need be neither reflexive nor symmetric. -/
class TransBEq (α : Type) [BEq α] : Prop where
  trans {a b c : α} : a == b → b == c → a == c

instance {α : Type} [BEq α] [PartialEquivBEq α] : TransBEq α := ⟨PartialEquivBEq.trans⟩

namespace OrderedSet

variable {α : Type} [BEq α] {s t : OrderedSet α} {a : α} {as : List α}

theorem insert_of_contains (h : s.contains a) : s.insert a = s := by
  rw [insert_eq, if_pos h]

theorem items_insert_of_not_contains (h : ¬ s.contains a) : (s.insert a).items = s.items ++ [a] := by
  rw [insert_eq, if_neg h]

theorem mem_insert_of_mem {b : α} (h : b ∈ s.items) : b ∈ (s.insert a).items := by
  by_cases ha : s.contains a
  · rw [insert_of_contains ha]
    exact h
  · rw [items_insert_of_not_contains ha]
    exact List.mem_append_left _ h

theorem mem_insertMany_of_mem {b : α} (h : b ∈ s.items) : b ∈ (s.insertMany as).items := by
  induction as generalizing s with
  | nil => exact h
  | cons a as ih => exact ih (mem_insert_of_mem h)

/-- No item comes from elsewhere. -/
theorem mem_of_mem_insertMany {b : α} (h : b ∈ (s.insertMany as).items) : b ∈ s.items ∨ b ∈ as := by
  induction as generalizing s with
  | nil => exact Or.inl h
  | cons a as ih =>
    rcases ih h with hb | hb
    · by_cases ha : s.contains a
      · rw [insert_of_contains ha] at hb
        exact Or.inl hb
      · rw [items_insert_of_not_contains ha] at hb
        rcases List.mem_append.1 hb with hb | hb
        · exact Or.inl hb
        · exact Or.inr (by simp_all)
    · exact Or.inr (List.mem_cons_of_mem a hb)

theorem mem_of_mem_ofList (h : a ∈ (ofList as).items) : a ∈ as := by
  rcases mem_of_mem_insertMany h with h | h
  · cases h
  · exact h

/-- The set has `a` or an item that equals it. An item that does not equal itself is no exception. -/
def Covers (s : OrderedSet α) (a : α) : Prop := ∃ b ∈ s.items, b = a ∨ b == a

theorem covers_insert (s : OrderedSet α) (a : α) : (s.insert a).Covers a := by
  by_cases ha : s.contains a
  · obtain ⟨b, hb, hba⟩ := List.any_eq_true.1 ha
    exact ⟨b, mem_insert_of_mem hb, Or.inr hba⟩
  · exact ⟨a, by simp [items_insert_of_not_contains ha], Or.inl rfl⟩

/-- Nothing that is offered is lost. -/
theorem covers_insertMany (s : OrderedSet α) (h : a ∈ as) : (s.insertMany as).Covers a := by
  induction as generalizing s with
  | nil => cases h
  | cons b as ih =>
    rcases List.mem_cons.1 h with rfl | h
    · obtain ⟨b, hb, hba⟩ := covers_insert s a
      rw [insertMany_cons]
      exact ⟨b, mem_insertMany_of_mem hb, hba⟩
    · exact ih (s.insert b) h

/-- Items that are all new are appended. -/
theorem insertMany_of_distinct {bs : List α} (h : (⟨as ++ bs⟩ : OrderedSet α).Distinct) :
    insertMany ⟨as⟩ bs = ⟨as ++ bs⟩ := by
  induction bs generalizing as with
  | nil => simp
  | cons b bs ih =>
    have hnew : ∀ a ∈ as, (a == b) = false := by
      intro a ha
      exact (List.pairwise_append.1 h).2.2 a ha b List.mem_cons_self
    have hb : ¬ contains ⟨as⟩ b := by simpa [contains] using hnew
    have hinsert : insert ⟨as⟩ b = ⟨as ++ [b]⟩ := (insert_eq ..).trans (if_neg hb)
    rw [List.append_cons] at h ⊢
    rw [insertMany_cons, hinsert, ih h]

theorem ofList_items (h : s.Distinct) : ofList s.items = s := by
  have hnil : (⟨[] ++ s.items⟩ : OrderedSet α).Distinct := h
  exact insertMany_of_distinct hnil

/-- The sets that can be made: from nothing, from a list, and from sets by insertion and union. -/
inductive Built : OrderedSet α → Prop
  | empty : Built empty
  | ofList (as : List α) : Built (ofList as)
  | insert {s : OrderedSet α} (h : Built s) (a : α) : Built (s.insert a)
  | insertMany {s : OrderedSet α} (h : Built s) (as : List α) : Built (s.insertMany as)
  | union {s t : OrderedSet α} (hs : Built s) (ht : Built t) : Built (s.union t)

theorem Built.distinct (h : s.Built) : s.Distinct := by
  induction h with
  | empty => exact distinct_empty
  | ofList as => exact distinct_empty.insertMany as
  | insert _ a ih => exact ih.insert a
  | insertMany _ as ih => exact ih.insertMany as
  | union _ _ ih _ => exact ih.insertMany _

section Transitive

variable [TransBEq α]

theorem contains_of_covers {b : α} (h : s.Covers b) (hb : b == a) : s.contains a := by
  obtain ⟨c, hc, rfl | hcb⟩ := h
  · exact List.any_eq_true.2 ⟨c, hc, hb⟩
  · exact List.any_eq_true.2 ⟨c, hc, TransBEq.trans hcb hb⟩

/-- An item that `t` refuses is refused after the items of `t` as well, also where the item that
stood against it was itself refused. -/
theorem insertMany_items_insert (s t : OrderedSet α) (a : α) :
    s.insertMany (t.insert a).items = (s.insertMany t.items).insert a := by
  by_cases ha : t.contains a
  · obtain ⟨b, hb, hba⟩ := List.any_eq_true.1 ha
    rw [insert_of_contains ha, insert_of_contains (contains_of_covers (covers_insertMany s hb) hba)]
  · rw [items_insert_of_not_contains ha, insertMany_append]
    rfl

theorem insertMany_items_insertMany (s t : OrderedSet α) (as : List α) :
    s.insertMany (t.insertMany as).items = (s.insertMany t.items).insertMany as := by
  induction as generalizing t with
  | nil => rfl
  | cons a as ih => rw [insertMany_cons, ih, insertMany_items_insert, insertMany_cons]

theorem union_assoc (s t u : OrderedSet α) : (s.union t).union u = s.union (t.union u) :=
  (insertMany_items_insertMany s t u.items).symm

end Transitive

end OrderedSet

end Pinpoint
