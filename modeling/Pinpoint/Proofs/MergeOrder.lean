import Pinpoint.Proofs.MergeAll

/-! Errors may be merged in any order: it decides which of several unexpected fragments is kept, and
nothing else. -/

namespace Pinpoint

section Equivalence

variable {α τ ε : Type} [BEq α] [BEq τ] [BEq ε]

theorem list_beq_symm [PartialEquivBEq α] : ∀ {as bs : List α}, as == bs → bs == as
  | [], [], _ => rfl
  | a :: as, b :: bs, h => by
    rw [List.cons_beq_cons, Bool.and_eq_true] at h ⊢
    exact ⟨PartialEquivBEq.symm h.1, list_beq_symm h.2⟩

instance partialEquivBEq_list [PartialEquivBEq α] : PartialEquivBEq (List α) :=
  ⟨list_beq_symm, TransBEq.trans⟩

theorem Fragment.beq_symm [PartialEquivBEq τ] : ∀ {a b : Fragment τ}, a == b → b == a
  | .tokens ts, .tokens us, h => PartialEquivBEq.symm (a := ts) (b := us) h
  | .label x, .label y, h => PartialEquivBEq.symm (a := x) (b := y) h
  | .endOfInput, .endOfInput, _ => rfl

theorem Fragment.beq_rfl [ReflBEq τ] : ∀ {a : Fragment τ}, a == a
  | .tokens ts => ReflBEq.rfl (a := ts)
  | .label x => ReflBEq.rfl (a := x)
  | .endOfInput => rfl

instance [EquivBEq τ] : EquivBEq (Fragment τ) where
  symm := Fragment.beq_symm
  trans := TransBEq.trans
  rfl := Fragment.beq_rfl

theorem Complaint.beq_symm [PartialEquivBEq ε] : ∀ {a b : Complaint ε}, a == b → b == a
  | .failure x, .failure y, h => PartialEquivBEq.symm (a := x) (b := y) h
  | .indentation o a r, .indentation o' a' r', h => by
    change (o == o' && a == a' && r == r') = true at h
    change (o' == o && a' == a && r' == r) = true
    simp only [Bool.and_eq_true, beq_iff_eq] at h ⊢
    exact ⟨⟨h.1.1.symm, h.1.2.symm⟩, h.2.symm⟩
  | .custom x, .custom y, h => PartialEquivBEq.symm (a := x) (b := y) h

theorem Complaint.beq_rfl [ReflBEq ε] : ∀ {a : Complaint ε}, a == a
  | .failure x => ReflBEq.rfl (a := x)
  | .indentation o a r => by
    change (o == o && a == a && r == r) = true
    simp
  | .custom x => ReflBEq.rfl (a := x)

instance [EquivBEq ε] : EquivBEq (Complaint ε) where
  symm := Complaint.beq_symm
  trans := TransBEq.trans
  rfl := Complaint.beq_rfl

theorem option_beq_of_isSome_eq {u v : Option α} (h : u.isSome = v.isSome)
    (huv : ∀ a ∈ u, ∀ b ∈ v, a == b) : u == v := by
  cases u with
  | none =>
    cases v with
    | none => rfl
    | some b => cases h
  | some a =>
    cases v with
    | none => cases h
    | some b => exact huv a rfl b rfl

end Equivalence

namespace OrderedSet

variable {α : Type} [BEq α] {s t : OrderedSet α} {as bs : List α}

/-- Items no two of which are equal need as many items to equal them: an item of `bs` is the equal of
at most one of `as`, so it can be struck out with it. -/
theorem length_le_of_forall_beq [PartialEquivBEq α]
    (hd : as.Pairwise fun a b => (a == b) = false) (h : ∀ a ∈ as, ∃ b ∈ bs, b == a) :
    as.length ≤ bs.length := by
  induction as generalizing bs with
  | nil => exact Nat.zero_le _
  | cons a as ih =>
    obtain ⟨hnew, hd⟩ := List.pairwise_cons.1 hd
    obtain ⟨b, hb, hba⟩ := h a List.mem_cons_self
    have hrest : ∀ a' ∈ as, ∃ b' ∈ bs.eraseP (· == a), b' == a' := by
      intro a' ha'
      obtain ⟨b', hb', hba'⟩ := h a' (List.mem_cons_of_mem a ha')
      have hne : ¬ (b' == a) = true := by
        intro hb'a
        have haa' : a == a' := PartialEquivBEq.trans (PartialEquivBEq.symm hb'a) hba'
        rw [hnew a' ha'] at haa'
        cases haa'
      exact ⟨b', (List.mem_eraseP_of_neg (p := (· == a)) hne).2 hb', hba'⟩
    have hlen := ih hd hrest
    rw [List.length_eraseP_of_mem hb hba] at hlen
    have hpos := List.length_pos_of_mem hb
    rw [List.length_cons]
    omega

/-- Sets that contain each other's items are equal: they have the same size. -/
theorem beq_of_contains [PartialEquivBEq α] (hs : s.Distinct) (ht : t.Distinct)
    (hst : ∀ a ∈ s.items, t.contains a) (hts : ∀ a ∈ t.items, s.contains a) : s == t := by
  have hsize : s.size = t.size := by
    apply Nat.le_antisymm
    · exact length_le_of_forall_beq hs fun a ha => List.any_eq_true.1 (hst a ha)
    · exact length_le_of_forall_beq ht fun a ha => List.any_eq_true.1 (hts a ha)
  show (s.size == t.size && s.items.all t.contains) = true
  rw [Bool.and_eq_true, beq_iff_eq, List.all_eq_true]
  exact ⟨hsize, hst⟩

variable [EquivBEq α]

theorem contains_ofList {a : α} (h : a ∈ as) : (ofList as).contains a :=
  contains_of_covers (covers_insertMany empty h) BEq.rfl

theorem ofList_beq_of_perm (h : as.Perm bs) : ofList as == ofList bs := by
  apply beq_of_contains (distinct_empty.insertMany as) (distinct_empty.insertMany bs)
  · intro a ha
    exact contains_ofList (h.mem_iff.1 (mem_of_mem_ofList ha))
  · intro b hb
    exact contains_ofList (h.mem_iff.2 (mem_of_mem_ofList hb))

end OrderedSet

namespace ParseError

variable {τ ε : Type} {es es' : List (ParseError τ ε)}

theorem furthest_le_of_subset (h : es ⊆ es') : furthest es ≤ furthest es' := by
  by_cases hes : es = []
  · subst hes
    exact Nat.zero_le _
  · obtain ⟨e, he, ho⟩ := exists_offset_eq_furthest hes
    rw [← ho]
    exact offset_le_furthest (h he)

theorem furthest_perm (h : es.Perm es') : furthest es = furthest es' :=
  Nat.le_antisymm (furthest_le_of_subset h.subset) (furthest_le_of_subset h.symm.subset)

theorem front_perm (h : es.Perm es') : (front es).Perm (front es') := by
  rw [front, front, furthest_perm h]
  exact h.filter _

theorem isSome_findSome?_perm (h : es.Perm es') :
    (es.findSome? unexpected?).isSome = (es'.findSome? unexpected?).isSome := by
  rw [Bool.eq_iff_iff, List.findSome?_isSome_iff, List.findSome?_isSome_iff]
  simp only [h.mem_iff]

variable [BEq τ] [BEq ε]

/-- The same error but for the unexpected fragment, which both have or both lack. -/
def Agree : ParseError τ ε → ParseError τ ε → Prop
  | .trivial n u x, .trivial n' u' x' => n = n' ∧ u.isSome = u'.isSome ∧ x == x'
  | .fancy n c, .fancy n' c' => n = n' ∧ c == c'
  | _, _ => False

theorem agree_combine [EquivBEq τ] [EquivBEq ε] (n : Nat) (h : es.Perm es') :
    Agree (combine n es) (combine n es') := by
  by_cases hf : es.any isFancy
  · have hf' : es'.any isFancy := by rwa [← h.any_eq]
    rw [combine_of_fancy hf, combine_of_fancy hf']
    exact ⟨rfl, OrderedSet.ofList_beq_of_perm (h.flatMap_right _)⟩
  · have hf' : ¬ es'.any isFancy := by rwa [← h.any_eq]
    rw [combine_of_not_fancy hf, combine_of_not_fancy hf']
    exact ⟨rfl, isSome_findSome?_perm h, OrderedSet.ofList_beq_of_perm (h.flatMap_right _)⟩

theorem beq_of_agree {a b : ParseError τ ε} (h : Agree a b)
    (hu : ∀ f ∈ a.unexpected?, ∀ g ∈ b.unexpected?, f == g) : a == b := by
  cases a with
  | trivial n u x =>
    cases b with
    | trivial n' u' x' =>
      obtain ⟨rfl, hsome, hx⟩ := h
      exact trivial_beq_iff.2 ⟨rfl, option_beq_of_isSome_eq hsome hu, hx⟩
    | fancy n' c' => cases h
  | fancy n c =>
    cases b with
    | trivial n' u' x' => cases h
    | fancy n' c' =>
      exact fancy_beq_iff.2 h

theorem mem_unexpected?_combine {n : Nat} {f : Fragment τ}
    (h : f ∈ (combine n es).unexpected?) : ∃ e ∈ es, f ∈ e.unexpected? := by
  by_cases hf : es.any isFancy
  · rw [combine_of_fancy hf] at h
    cases h
  · rw [combine_of_not_fancy hf] at h
    exact List.exists_of_findSome?_eq_some h

/-- Errors merged in another order give an error that agrees with theirs, and an equal one if the
unexpected fragments to choose from are equal. -/
theorem mergeAll_perm [EquivBEq τ] [EquivBEq ε] (hb : ∀ e ∈ es, e.Built) (h : es.Perm es') :
    Option.Rel Agree (mergeAll es) (mergeAll es') ∧
      ((∀ a ∈ front es, ∀ b ∈ front es, ∀ f ∈ a.unexpected?, ∀ g ∈ b.unexpected?, f == g) →
        mergeAll es == mergeAll es') := by
  by_cases hes : es = []
  · subst hes
    rw [List.nil_perm.1 h]
    exact ⟨.none, fun _ => rfl⟩
  · have hes' : es' ≠ [] := fun h' => hes (List.perm_nil.1 (h' ▸ h))
    have hd : ∀ e ∈ es, e.Distinct := fun e he => (hb e he).distinct
    have hd' : ∀ e ∈ es', e.Distinct := fun e he => hd e (h.mem_iff.2 he)
    have hfront := front_perm h
    have hagree := agree_combine (furthest es) hfront
    rw [mergeAll_eq_combine hes hd, mergeAll_eq_combine hes' hd', ← furthest_perm h]
    refine ⟨.some hagree, ?_⟩
    intro hsame
    apply beq_of_agree hagree
    intro f hf g hg
    obtain ⟨a, ha, hf⟩ := mem_unexpected?_combine hf
    obtain ⟨b, hb, hg⟩ := mem_unexpected?_combine hg
    exact hsame a ha b (hfront.mem_iff.2 hb) f hf g hg

/-- The same mismatches from both ends: their expectations come in another order and are equal. -/
theorem mergeAll_perm_reverse :
    let x : Fragment Char := .token 'x'
    let es : List (ParseError Char String) :=
      [.mismatch 5 (some x) [.label "a"], .fail 2 "short",
        .mismatch 5 none [.label "b", .label "a"]]
    (∀ e ∈ es, e.Built) ∧ es.Perm es.reverse ∧
      mergeAll es = some (.trivial 5 (some x) ⟨[.label "a", .label "b"]⟩) ∧
      mergeAll es.reverse = some (.trivial 5 (some x) ⟨[.label "b", .label "a"]⟩) ∧
      Option.Rel Agree (mergeAll es) (mergeAll es.reverse) ∧ mergeAll es == mergeAll es.reverse := by
  intro x es
  have hb : ∀ e ∈ es, e.Built := by
    intro e he
    simp only [es, List.mem_cons, List.not_mem_nil, or_false] at he
    rcases he with rfl | rfl | rfl
    · exact .trivial _ _ (.ofList _)
    · exact .fancy _ (.ofList _)
    · exact .trivial _ _ (.ofList _)
  have hperm : es.Perm es.reverse := es.reverse_perm.symm
  have hsame : ∀ a ∈ front es, ∀ b ∈ front es,
      ∀ f ∈ a.unexpected?, ∀ g ∈ b.unexpected?, f == g := by
    have hfront : front es =
        [.mismatch 5 (some x) [.label "a"], .mismatch 5 none [.label "b", .label "a"]] := rfl
    rw [hfront]
    simp [mismatch, unexpected?]
  obtain ⟨hagree, hbeq⟩ := mergeAll_perm hb hperm
  exact ⟨hb, hperm, rfl, rfl, hagree, hbeq hsame⟩

end ParseError

end Pinpoint
