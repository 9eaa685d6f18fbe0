import Mathlib.Data.List.Forall2
import Pinpoint.Proofs.SetEquality

/-! Merging respects equality. Equal errors may list their items in other orders and by other
representatives, so their merges keep different items, but the errors they come to are equal. -/

namespace Pinpoint

theorem option_or_beq_or {α : Type} [BEq α] {u u' v v' : Option α} (hu : u == u') (hv : v == v') :
    u.or v == u'.or v' := by
  cases u with
  | none =>
    cases u' with
    | none => exact hv
    | some b => cases hu
  | some a =>
    cases u' with
    | none => cases hu
    | some b => exact hu

namespace OrderedSet

variable {α : Type} [BEq α] [EquivBEq α] {s s' t t' : OrderedSet α}

theorem contains_union {a : α} : (s.union t).contains a ↔ s.contains a ∨ t.contains a := by
  constructor
  · intro h
    obtain ⟨b, hb, hba⟩ := contains_iff.1 h
    rcases mem_of_mem_insertMany hb with hb | hb
    · exact Or.inl (contains_iff.2 ⟨b, hb, hba⟩)
    · exact Or.inr (contains_iff.2 ⟨b, hb, hba⟩)
  · rintro (h | h)
    · obtain ⟨b, hb, hba⟩ := contains_iff.1 h
      exact contains_iff.2 ⟨b, mem_insertMany_of_mem hb, hba⟩
    · obtain ⟨b, hb, hba⟩ := contains_iff.1 h
      exact contains_of_covers (covers_insertMany s hb) hba

theorem contains_union_of_mem_union (hs : ∀ a ∈ s.items, s'.contains a)
    (ht : ∀ a ∈ t.items, t'.contains a) : ∀ a ∈ (s.union t).items, (s'.union t').contains a := by
  intro a ha
  rcases mem_of_mem_insertMany ha with ha | ha
  · exact contains_union.2 (Or.inl (hs a ha))
  · exact contains_union.2 (Or.inr (ht a ha))

/-- Which items of the right sets are new depends on the representatives on the left. The classes of
items in the unions do not. -/
theorem union_beq_union (hs : s.Distinct) (hs' : s'.Distinct) (ht : t.Distinct) (h : s == s')
    (h' : t == t') : s.union t == s'.union t' := by
  apply beq_of_contains (hs.insertMany _) (hs'.insertMany _)
  · exact contains_union_of_mem_union (beq_iff.1 h).2 (beq_iff.1 h').2
  · apply contains_union_of_mem_union
    · intro a ha
      exact contains_of_beq hs h ha
    · intro a ha
      exact contains_of_beq ht h' ha

end OrderedSet

namespace ParseError

variable {τ ε : Type} [BEq τ] [BEq ε] {a a' b b' : ParseError τ ε}

/-- Equal errors have one offset and one shape. -/
theorem beq_cases (h : a == a') :
    (∃ n u u' x x', a = .trivial n u x ∧ a' = .trivial n u' x' ∧ u == u' ∧ x == x') ∨
      ∃ n c c', a = .fancy n c ∧ a' = .fancy n c' ∧ c == c' := by
  cases a with
  | trivial n u x =>
    cases a' with
    | trivial n' u' x' =>
      obtain ⟨rfl, hu, hx⟩ := trivial_beq_iff.1 h
      exact Or.inl ⟨n, u, u', x, x', rfl, rfl, hu, hx⟩
    | fancy n' c' => cases h
  | fancy n c =>
    cases a' with
    | trivial n' u' x' => cases h
    | fancy n' c' =>
      obtain ⟨rfl, hc⟩ := fancy_beq_iff.1 h
      exact Or.inr ⟨n, c, c', rfl, rfl, hc⟩

theorem offset_eq_of_beq (h : a == a') : a.offset = a'.offset := by
  rcases beq_cases h with ⟨n, u, u', x, x', rfl, rfl, -, -⟩ | ⟨n, c, c', rfl, rfl, -⟩
  · rfl
  · rfl

/-- Two errors that are equal, neither with an item twice. -/
structure Equal (a a' : ParseError τ ε) : Prop where
  left : a.Distinct
  right : a'.Distinct
  beq : a == a'

variable {m m' : Option (ParseError τ ε)}

theorem Equal.rel_beq (hm : Option.Rel Equal m m') : Option.Rel (fun r r' => r == r') m m' := by
  cases hm with
  | none => exact .none
  | some h => exact .some h.beq

variable [EquivBEq τ] [EquivBEq ε]

theorem Equal.unite_beq (ha : Equal a a') (hb : Equal b b') : a.unite b == a'.unite b' := by
  obtain ⟨hd, hd', ha⟩ := ha
  obtain ⟨he, -, hb⟩ := hb
  rcases beq_cases ha with ⟨n, u, u', x, x', rfl, rfl, hu, hx⟩ | ⟨n, c, c', rfl, rfl, hc⟩
  · rcases beq_cases hb with ⟨m, v, v', y, y', rfl, rfl, hv, hy⟩ | ⟨m, d, d', rfl, rfl, -⟩
    · exact trivial_beq_iff.2
        ⟨rfl, option_or_beq_or hu hv, OrderedSet.union_beq_union hd hd' he hx hy⟩
    · exact hb
  · rcases beq_cases hb with ⟨m, v, v', y, y', rfl, rfl, -, -⟩ | ⟨m, d, d', rfl, rfl, hd''⟩
    · exact ha
    · exact fancy_beq_iff.2 ⟨rfl, OrderedSet.union_beq_union hd hd' he hc hd''⟩

/-- Equal errors stand at one offset, so the same side wins in both merges. -/
theorem Equal.merge (ha : Equal a a') (hb : Equal b b') : Equal (a.merge b) (a'.merge b') := by
  refine ⟨ha.left.merge hb.left, ha.right.merge hb.right, ?_⟩
  have hoa := offset_eq_of_beq ha.beq
  have hob := offset_eq_of_beq hb.beq
  rcases Nat.lt_trichotomy a.offset b.offset with h | h | h
  · rw [merge_of_offset_lt h, merge_of_offset_lt (by omega)]
    exact hb.beq
  · rw [merge_of_offset_eq h, merge_of_offset_eq (by omega)]
    exact ha.unite_beq hb
  · rw [merge_of_offset_gt h, merge_of_offset_gt (by omega)]
    exact ha.beq

theorem Equal.merge_option (hm : Option.Rel Equal m m') (ha : Equal a a') :
    Option.Rel Equal (m.merge ParseError.merge (some a)) (m'.merge ParseError.merge (some a')) := by
  cases hm with
  | none => exact .some ha
  | some h => exact .some (h.merge ha)

theorem mergeAll_rel {es es' : List (ParseError τ ε)} (h : List.Forall₂ Equal es es') :
    Option.Rel Equal (mergeAll es) (mergeAll es') := by
  refine List.rel_foldl (P := Option.Rel Equal) (R := Equal) ?_ Option.Rel.none h
  intro m m' hm e e' he
  exact Equal.merge_option hm he

/-- Errors that are equal may stand in for each other: two of them merge to equal errors, and lists of
them that are equal place by place come to equal errors or both to none. -/
theorem merge_respects_beq :
    (∀ a a' b b' : ParseError τ ε, a.Built → a'.Built → b.Built → b'.Built →
      a == a' → b == b' → a.merge b == a'.merge b') ∧
    ∀ es es' : List (ParseError τ ε), (∀ e ∈ es, e.Built) → (∀ e ∈ es', e.Built) →
      List.Forall₂ (fun e e' => e == e') es es' →
      Option.Rel (fun r r' => r == r') (mergeAll es) (mergeAll es') := by
  constructor
  · intro a a' b b' ha ha' hb hb' haa hbb
    have hequal : Equal a a' := ⟨ha.distinct, ha'.distinct, haa⟩
    exact (hequal.merge ⟨hb.distinct, hb'.distinct, hbb⟩).beq
  · intro es es' hes hes' h
    have hequal : List.Forall₂ Equal es es' := by
      rw [List.forall₂_iff_get] at h ⊢
      refine ⟨h.1, ?_⟩
      intro i hi hi'
      have hbuilt := hes _ (List.get_mem es ⟨i, hi⟩)
      have hbuilt' := hes' _ (List.get_mem es' ⟨i, hi'⟩)
      exact ⟨hbuilt.distinct, hbuilt'.distinct, h.2 i hi hi'⟩
    exact Equal.rel_beq (mergeAll_rel hequal)

/-- Payloads that are equal whatever their case: the merges keep other letters in another order. -/
theorem merge_respects_beq_ignoringCase :
    let _ : BEq Char := ⟨fun a b => decide (a.toLower = b.toLower)⟩
    let a : ParseError Nat Char := .complain 3 [.custom 'a', .custom 'B']
    let a' : ParseError Nat Char := .complain 3 [.custom 'b', .custom 'A']
    let b : ParseError Nat Char := .complain 3 [.custom 'A', .custom 'c']
    let b' : ParseError Nat Char := .complain 3 [.custom 'C', .custom 'a']
    (a.Built ∧ a'.Built ∧ b.Built ∧ b'.Built) ∧ a == a' ∧ b == b' ∧
      a.merge b = .fancy 3 ⟨[.custom 'a', .custom 'B', .custom 'c']⟩ ∧
      a'.merge b' = .fancy 3 ⟨[.custom 'b', .custom 'A', .custom 'C']⟩ ∧
      a.merge b == a'.merge b' ∧
      Option.Rel (fun r r' => r == r') (mergeAll [a, b]) (mergeAll [a', b']) := by
  intro _ a a' b b'
  have hequiv : EquivBEq Char := equivBEq_of_key Char.toLower fun _ _ => decide_eq_true_iff
  have hbuilt (cs : List (Complaint Char)) : (complain 3 cs : ParseError Nat Char).Built :=
    .fancy _ (.ofList _)
  have haa : a == a' := by decide
  have hbb : b == b' := by decide
  obtain ⟨hmerge, hmergeAll⟩ := merge_respects_beq (τ := Nat) (ε := Char)
  have hboth (cs ds : List (Complaint Char)) :
      ∀ e ∈ [(complain 3 cs : ParseError Nat Char), complain 3 ds], e.Built := by
    simp [hbuilt]
  exact ⟨⟨hbuilt _, hbuilt _, hbuilt _, hbuilt _⟩, haa, hbb, rfl, rfl,
    hmerge a a' b b' (hbuilt _) (hbuilt _) (hbuilt _) (hbuilt _) haa hbb,
    hmergeAll [a, b] [a', b'] (hboth _ _) (hboth _ _) (.cons haa (.cons hbb .nil))⟩

end ParseError

end Pinpoint
