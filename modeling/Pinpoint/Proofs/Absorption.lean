import Pinpoint.Proofs.SetEquality

/-! An error that was merged stays accounted for. Whatever is merged after it, the result is further
into the input, or shadows it, or has equals for all its items and an unexpected fragment if it had
one. So it changes nothing to merge it again. Equality need only be reflexive for this. -/

namespace Pinpoint

namespace OrderedSet

variable {α : Type} [BEq α] {s : OrderedSet α} {a : α} {as : List α}

theorem insertMany_of_contains (h : ∀ a ∈ as, s.contains a) : s.insertMany as = s := by
  induction as with
  | nil => rfl
  | cons a as ih =>
    rw [insertMany_cons, insert_of_contains (h a List.mem_cons_self)]
    exact ih fun b hb => h b (List.mem_cons_of_mem a hb)

theorem contains_insertMany_of_contains (h : s.contains a) : (s.insertMany as).contains a := by
  obtain ⟨b, hb, hba⟩ := contains_iff.1 h
  exact contains_iff.2 ⟨b, mem_insertMany_of_mem hb, hba⟩

theorem Covers.contains [ReflBEq α] (h : s.Covers a) : s.contains a := by
  obtain ⟨b, hb, rfl | hba⟩ := h
  · exact contains_iff.2 ⟨b, hb, BEq.rfl⟩
  · exact contains_iff.2 ⟨b, hb, hba⟩

end OrderedSet

instance {τ : Type} [BEq τ] [ReflBEq τ] : ReflBEq (Fragment τ) := ⟨Fragment.beq_rfl⟩

instance {ε : Type} [BEq ε] [ReflBEq ε] : ReflBEq (Complaint ε) := ⟨Complaint.beq_rfl⟩

namespace ParseError

variable {τ ε : Type} [BEq τ] [BEq ε]

/-- The left error tells all that the right one would add to it: it stands further on, or it is fancy
and the other is not, or it has an equal for each item of the other and, if the other has an unexpected
fragment, one of its own. -/
inductive Absorbs : ParseError τ ε → ParseError τ ε → Prop
  | further {r x : ParseError τ ε} (h : x.offset < r.offset) : Absorbs r x
  | shadows (offset : Nat) (complaints : OrderedSet (Complaint ε)) (unexpected : Option (Fragment τ))
      (expected : OrderedSet (Fragment τ)) :
      Absorbs (.fancy offset complaints) (.trivial offset unexpected expected)
  | trivial {offset : Nat} {u v : Option (Fragment τ)} {s t : OrderedSet (Fragment τ)}
      (hu : v.isSome → u.isSome) (h : ∀ f ∈ t.items, s.contains f) :
      Absorbs (.trivial offset u s) (.trivial offset v t)
  | fancy {offset : Nat} {s t : OrderedSet (Complaint ε)} (h : ∀ c ∈ t.items, s.contains c) :
      Absorbs (.fancy offset s) (.fancy offset t)

variable {a b r x : ParseError τ ε}

theorem Absorbs.offset_le (h : Absorbs r x) : x.offset ≤ r.offset := by
  cases h with
  | further h => exact Nat.le_of_lt h
  | shadows => exact Nat.le_refl _
  | trivial => exact Nat.le_refl _
  | fancy => exact Nat.le_refl _

theorem Absorbs.merge_eq (h : Absorbs r x) : r.merge x = r := by
  cases h with
  | further h => exact merge_of_offset_gt h
  | shadows => exact merge_of_offset_eq rfl
  | @trivial n u v s t hu h =>
    have hor : u.or v = u := by
      cases u with
      | none => simpa using hu
      | some f => rfl
    have hunion : s.union t = s := OrderedSet.insertMany_of_contains h
    calc (ParseError.trivial n u s : ParseError τ ε).merge (.trivial n v t)
        = .trivial n (u.or v) (s.union t) := merge_of_offset_eq rfl
      _ = .trivial n u s := by rw [hor, hunion]
  | @fancy n s t h =>
    have hunion : s.union t = s := OrderedSet.insertMany_of_contains h
    calc (ParseError.fancy n s : ParseError τ ε).merge (.fancy n t)
        = .fancy n (s.union t) := merge_of_offset_eq rfl
      _ = .fancy n s := by rw [hunion]

/-- At one offset nothing is taken away, and a fancy error in the place of a mismatch shadows what
the mismatch absorbed. -/
theorem Absorbs.unite (h : Absorbs a x) (hab : a.offset = b.offset) : Absorbs (a.unite b) x := by
  cases h with
  | further h => exact .further (by rwa [offset_unite hab])
  | shadows =>
    cases b with
    | trivial => exact .shadows ..
    | fancy => exact .shadows ..
  | trivial hu h =>
    cases b with
    | trivial n' u' s' =>
      refine .trivial ?_ fun f hf => OrderedSet.contains_insertMany_of_contains (h f hf)
      intro hv
      rw [Option.isSome_or, hu hv, Bool.true_or]
    | fancy n' c' =>
      cases hab
      exact .shadows ..
  | fancy h =>
    cases b with
    | trivial => exact .fancy h
    | fancy => exact .fancy fun c hc => OrderedSet.contains_insertMany_of_contains (h c hc)

theorem Absorbs.merge (h : Absorbs a x) (b : ParseError τ ε) : Absorbs (a.merge b) x := by
  rcases Nat.lt_trichotomy a.offset b.offset with hab | hab | hab
  · rw [merge_of_offset_lt hab]
    exact .further (Nat.lt_of_le_of_lt h.offset_le hab)
  · rw [merge_of_offset_eq hab]
    exact h.unite hab
  · rwa [merge_of_offset_gt hab]

variable [ReflBEq τ] [ReflBEq ε]

theorem absorbs_self (a : ParseError τ ε) : Absorbs a a := by
  cases a with
  | trivial n u s =>
    exact .trivial id fun f hf => OrderedSet.Covers.contains ⟨f, hf, Or.inl rfl⟩
  | fancy n s => exact .fancy fun c hc => OrderedSet.Covers.contains ⟨c, hc, Or.inl rfl⟩

theorem absorbs_unite_right (hab : a.offset = b.offset) : Absorbs (a.unite b) b := by
  cases a with
  | trivial n u s =>
    cases b with
    | trivial n' v t =>
      cases hab
      refine .trivial ?_ fun f hf => (OrderedSet.covers_insertMany s hf).contains
      intro hv
      rw [Option.isSome_or, hv, Bool.or_true]
    | fancy n' t => exact absorbs_self _
  | fancy n s =>
    cases b with
    | trivial n' v t =>
      cases hab
      exact .shadows ..
    | fancy n' t =>
      cases hab
      exact .fancy fun c hc => (OrderedSet.covers_insertMany s hc).contains

theorem absorbs_merge_right (a b : ParseError τ ε) : Absorbs (a.merge b) b := by
  rcases Nat.lt_trichotomy a.offset b.offset with hab | hab | hab
  · rw [merge_of_offset_lt hab]
    exact absorbs_self b
  · rw [merge_of_offset_eq hab]
    exact absorbs_unite_right hab
  · rw [merge_of_offset_gt hab]
    exact .further hab

/-- What a list of errors comes to absorbs each of them, wherever in the list it stood. -/
theorem exists_absorbs_of_mem {es : List (ParseError τ ε)} (h : x ∈ es) :
    ∃ r, mergeAll es = some r ∧ Absorbs r x := by
  induction es using List.reverseRecOn with
  | nil => cases h
  | append_singleton es e ih =>
    rw [mergeAll_concat]
    rcases List.mem_append.1 h with h | h
    · obtain ⟨r, hr, hx⟩ := ih h
      exact ⟨r.merge e, by rw [hr, Option.merge_some_some], hx.merge e⟩
    · rw [List.mem_singleton.1 h]
      cases mergeAll es with
      | none => exact ⟨e, rfl, absorbs_self e⟩
      | some r => exact ⟨r.merge e, rfl, absorbs_merge_right r e⟩

/-- An error that is among those merged is absorbed by what they come to, and to merge it once more
leaves that as it is, down to the order of the items and the unexpected fragment. -/
theorem remerge_eq_self :
    (∀ (es : List (ParseError τ ε)) (e : ParseError τ ε), e ∈ es →
      mergeAll (es ++ [e]) = mergeAll es ∧ ∃ r, mergeAll es = some r ∧ Absorbs r e) ∧
    (∀ a : ParseError τ ε, a.merge a = a) ∧
    ∀ a b : ParseError τ ε, (a.merge b).merge a = a.merge b := by
  refine ⟨?_, fun a => (absorbs_self a).merge_eq, fun a b => ((absorbs_self a).merge b).merge_eq⟩
  intro es e he
  obtain ⟨r, hr, habsorbs⟩ := exists_absorbs_of_mem he
  refine ⟨?_, r, hr, habsorbs⟩
  rw [mergeAll_concat, hr, Option.merge_some_some, habsorbs.merge_eq]

/-- Payloads that equal their neighbours, which is not transitive: the second error was refused by the
first and not by the third. -/
theorem remerge_eq_self_neighbours :
    let _ : BEq Nat := ⟨fun a b => decide (a ≤ b + 1 ∧ b ≤ a + 1)⟩
    let a : ParseError Char Nat := .custom 3 0
    let b : ParseError Char Nat := .custom 3 1
    let c : ParseError Char Nat := .custom 3 2
    let short : ParseError Char Nat := .mismatch 1 (some (.token 'x')) [.label "a"]
    let es := [short, a, b, c]
    ReflBEq Nat ∧ b ∈ es ∧ short ∈ es ∧
      mergeAll es = some (.fancy 3 ⟨[.custom 0, .custom 2]⟩) ∧
      mergeAll (es ++ [b]) = mergeAll es ∧ mergeAll (es ++ [short]) = mergeAll es ∧
      b.merge b = b ∧ (b.merge c).merge b = b.merge c := by
  intro _ a b c short es
  have hrefl : ReflBEq Nat := ⟨fun {n} => decide_eq_true ⟨Nat.le_succ n, Nat.le_succ n⟩⟩
  have hb : b ∈ es := .tail _ (.tail _ (.head _))
  have hshort : short ∈ es := .head _
  obtain ⟨hmergeAll, hself, hagain⟩ := remerge_eq_self (τ := Char) (ε := Nat)
  exact ⟨hrefl, hb, hshort, rfl, (hmergeAll es b hb).1, (hmergeAll es short hshort).1, hself b,
    hagain b c⟩

end ParseError

end Pinpoint
