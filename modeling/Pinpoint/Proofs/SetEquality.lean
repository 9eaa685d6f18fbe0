import Pinpoint.Proofs.MergeOrder

/-! Equality of sets. It asks for equal sizes and for one set's items in the other, and since no set
holds two equal items that is as good as asking for the items of both. -/

namespace Pinpoint

/-- Items that are equal by what a key makes of them. -/
theorem equivBEq_of_key {α β : Type} [BEq α] (key : α → β)
    (h : ∀ a b : α, a == b ↔ key a = key b) : EquivBEq α where
  rfl {a} := (h a a).2 rfl
  symm {a b} hab := (h b a).2 ((h a b).1 hab).symm
  trans {a b c} hab hbc := (h a c).2 (((h a b).1 hab).trans ((h b c).1 hbc))

namespace OrderedSet

variable {α : Type} [BEq α] {s t u : OrderedSet α}

theorem contains_iff {a : α} : s.contains a ↔ ∃ b ∈ s.items, b == a := List.any_eq_true

theorem beq_iff : s == t ↔ s.size = t.size ∧ ∀ a ∈ s.items, t.contains a := by
  show (s.size == t.size && s.items.all t.contains) = true ↔ _
  rw [Bool.and_eq_true, beq_iff_eq, List.all_eq_true]

section Equivalence

variable [EquivBEq α]

theorem contains_of_mem {a : α} (h : a ∈ s.items) : s.contains a :=
  contains_iff.2 ⟨a, h, BEq.rfl⟩

/-- Equality looks into the right set only. If an item of it had no equal on the left, the items of
the left set would all have theirs among the others, which are too few. -/
theorem contains_of_beq (hs : s.Distinct) (h : s == t) {b : α} (hb : b ∈ t.items) :
    s.contains b := by
  obtain ⟨hsize, hst⟩ := beq_iff.1 h
  by_cases hcontains : s.contains b
  · exact hcontains
  · have hothers : ∀ a ∈ s.items, ∃ b' ∈ t.items.eraseP (· == b), b' == a := by
      intro a ha
      obtain ⟨b', hb', hba⟩ := contains_iff.1 (hst a ha)
      have hne : ¬ (b' == b) = true := by
        intro hbb
        exact hcontains (contains_iff.2 ⟨a, ha, BEq.trans (BEq.symm hba) hbb⟩)
      exact ⟨b', (List.mem_eraseP_of_neg (p := (· == b)) hne).2 hb', hba⟩
    have hle := length_le_of_forall_beq hs hothers
    rw [List.length_eraseP_of_mem (p := (· == b)) hb BEq.rfl] at hle
    have hpos := List.length_pos_of_mem hb
    change s.items.length = t.items.length at hsize
    omega

theorem beq_rfl : s == s :=
  beq_iff.2 ⟨rfl, fun _ ha => contains_of_mem ha⟩

theorem beq_symm (hs : s.Distinct) (h : s == t) : t == s := by
  obtain ⟨hsize, -⟩ := beq_iff.1 h
  exact beq_iff.2 ⟨hsize.symm, fun b hb => contains_of_beq hs h hb⟩

theorem beq_trans (hst : s == t) (htu : t == u) : s == u := by
  obtain ⟨hsize, hitems⟩ := beq_iff.1 hst
  obtain ⟨hsize', hitems'⟩ := beq_iff.1 htu
  refine beq_iff.2 ⟨hsize.trans hsize', ?_⟩
  intro a ha
  obtain ⟨b, hb, hba⟩ := contains_iff.1 (hitems a ha)
  obtain ⟨c, hc, hcb⟩ := contains_iff.1 (hitems' b hb)
  exact contains_iff.2 ⟨c, hc, BEq.trans hcb hba⟩

theorem beq_iff_forall_exists (hs : s.Distinct) (ht : t.Distinct) :
    s == t ↔ (∀ a ∈ s.items, ∃ b ∈ t.items, a == b) ∧ ∀ b ∈ t.items, ∃ a ∈ s.items, b == a := by
  constructor
  · intro h
    constructor
    · intro a ha
      obtain ⟨b, hb, hba⟩ := contains_iff.1 ((beq_iff.1 h).2 a ha)
      exact ⟨b, hb, BEq.symm hba⟩
    · intro b hb
      obtain ⟨a, ha, hab⟩ := contains_iff.1 (contains_of_beq hs h hb)
      exact ⟨a, ha, BEq.symm hab⟩
  · rintro ⟨hst, hts⟩
    apply beq_of_contains hs ht
    · intro a ha
      obtain ⟨b, hb, hab⟩ := hst a ha
      exact contains_iff.2 ⟨b, hb, BEq.symm hab⟩
    · intro b hb
      obtain ⟨a, ha, hba⟩ := hts b hb
      exact contains_iff.2 ⟨a, ha, BEq.symm hba⟩

end Equivalence

/-- However a set was filled, no item of it equals a later one. Where equality of items is an
equivalence, so is equality of sets. It holds exactly of sets that have equals for each other's
items, in whatever order and by whatever representatives. -/
theorem built_isSet :
    (∀ s : OrderedSet α, s.Built → ∀ i j (hi : i < s.items.length) (hj : j < s.items.length),
      i < j → (s.items[i] == s.items[j]) = false) ∧
    (EquivBEq α →
      (Equivalence fun s t : { s : OrderedSet α // s.Built } => s.1 == t.1) ∧
      ∀ s t : OrderedSet α, s.Built → t.Built → (s == t ↔
        (∀ a ∈ s.items, ∃ b ∈ t.items, a == b) ∧ ∀ b ∈ t.items, ∃ a ∈ s.items, b == a)) := by
  refine ⟨?_, ?_⟩
  · intro s hs
    exact List.pairwise_iff_getElem.1 hs.distinct
  · intro hequiv
    refine ⟨⟨?_, ?_, ?_⟩, ?_⟩
    · intro s
      exact beq_rfl
    · intro s t h
      exact beq_symm s.2.distinct h
    · intro s t u hst htu
      exact beq_trans hst htu
    · intro s t hs ht
      exact beq_iff_forall_exists hs.distinct ht.distinct

/-- Letters that are equal whatever their case, filled in two ways. -/
theorem built_isSet_ignoringCase :
    let _ : BEq Char := ⟨fun a b => decide (a.toLower = b.toLower)⟩
    let s := ofList ['a', 'B', 'A']
    let t := (empty.insert 'b').insertMany ['A', 'B']
    s.Built ∧ t.Built ∧ s.items = ['a', 'B'] ∧ t.items = ['b', 'A'] ∧
      ('a' == 'B') = false ∧ s == t ∧ t == s := by
  intro _ s t
  have hequiv : EquivBEq Char := equivBEq_of_key Char.toLower fun _ _ => decide_eq_true_iff
  have hs : s.Built := .ofList _
  have ht : t.Built := .insertMany (.insert .empty _) _
  obtain ⟨hdistinct, hequal⟩ := built_isSet (α := Char)
  obtain ⟨hequivalence, hiff⟩ := hequal hequiv
  have hst : s == t := (hiff s t hs ht).2 (by decide)
  exact ⟨hs, ht, rfl, rfl, hdistinct s hs 0 1 (by decide) (by decide) (by decide), hst,
    hequivalence.symm (x := ⟨s, hs⟩) (y := ⟨t, ht⟩) hst⟩

end OrderedSet

end Pinpoint
